/-!
Values that programs work on. Scalars stand for themselves; everything that can change, or that is
told apart from an equal thing, is an object and stands in the store under an address.
-/

namespace BlockScript

abbrev Address := Nat

inductive Exception where
  | general | user | loginDenied
deriving DecidableEq, Repr, Inhabited

def Exception.isA (e expected : Exception) : Bool := expected == .general || e == expected

inductive LibraryClass where
  | standard | cursors | mocks | output
  | null | solid | table | record | cursor | mock
  | exception (e : Exception)
deriving DecidableEq, Repr, Inhabited

namespace LibraryClass

def name : LibraryClass → String
  | standard => "PLGLOBALS"
  | cursors => "PLCURSOR"
  | mocks => "MOCKPLCURSOR"
  | output => "DBMS_OUTPUT"
  | null => "NULL"
  | solid => "PleaseNotMutable"
  | table => "PLTABLE"
  | record => "PLRECORD"
  | cursor => "_CURSOR"
  | mock => "MOCKSQL"
  | exception .general => "_PL_EXCEPTION"
  | exception .user => "_USER_EXCEPTION"
  | exception .loginDenied => "LOGIN_DENIED"

def path : LibraryClass → String
  | standard => "PLGLOBALS.PLGLOBALS"
  | cursors => "PLCURSOR.PLCURSOR"
  | mocks => "MOCKPLCURSOR.MOCKPLCURSOR"
  | output => "DBMS_OUTPUT.DBMS_OUTPUT"
  | null => "NULL.NULL"
  | solid => "Mutable.PleaseNotMutable"
  | table => "PLTABLE.PLTABLE"
  | record => "PLRECORD.PLRECORD"
  | cursor => "PLCURSOR._CURSOR"
  | mock => "MOCKPLCURSOR.MOCKPLCURSOR.MOCKSQL"
  | exception .general => "PLGLOBALS._PL_EXCEPTION"
  | exception .user => "PLGLOBALS._USER_EXCEPTION"
  | exception .loginDenied => "PLGLOBALS.PLGLOBALS.LOGIN_DENIED"

end LibraryClass

inductive Method where
  | tableDelete | tableExists | tableCount | tableLast | tableFirst | tableNext | tablePrior
  | recordKeys
  | cursorOpen | cursorFetch | cursorClose | cursorIsOpen | cursorFound | cursorNotFound
  | mockReturns | mockRowCount | mockExpectOpenWith
deriving DecidableEq, Repr, Inhabited

namespace Method

def path : Method → LibraryClass × String
  | tableDelete => (.table, "DELETE")
  | tableExists => (.table, "EXISTS")
  | tableCount => (.table, "COUNT")
  | tableLast => (.table, "LAST")
  | tableFirst => (.table, "FIRST")
  | tableNext => (.table, "NEXT")
  | tablePrior => (.table, "PRIOR")
  | recordKeys => (.record, "keys")
  | cursorOpen => (.cursor, "OPEN")
  | cursorFetch => (.cursor, "FETCH")
  | cursorClose => (.cursor, "CLOSE")
  | cursorIsOpen => (.cursor, "ISOPEN")
  | cursorFound => (.cursor, "FOUND")
  | cursorNotFound => (.cursor, "NOTFOUND")
  | mockReturns => (.mock, "RETURNS")
  | mockRowCount => (.mock, "ROWCOUNT")
  | mockExpectOpenWith => (.mock, "EXPECT_HAVEBEENOPENWITH")

def all : List Method :=
  [tableDelete, tableExists, tableCount, tableLast, tableFirst, tableNext, tablePrior, recordKeys,
    cursorOpen, cursorFetch, cursorClose, cursorIsOpen, cursorFound, cursorNotFound, mockReturns,
    mockRowCount, mockExpectOpenWith]

def find? (owner : LibraryClass) (name : String) : Option Method :=
  all.find? fun m => m.path == (owner, name)

end Method

inductive Routine where
  | wrap | unwrap | isCell | isNull | negate | concat | range | tableOf | executeInto | locals
  | chr | instr | length | lower | mod | nvl | exception | raiseError | replace | substr
  | sysContext | toChar | toNumber | trim | trimLeft | trimRight | pad | padLeft | padRight | upper
  | startConnection | connection | setup | execute | autonomous | commit | rollback
  | closeConnection | isOpen | rowCount
  | expectCommit | expectRollback | expectAutonomous | expectNormal
  | putLine
  /-- A member of a class, taken from the class itself. -/
  | member (method : Method)
deriving DecidableEq, Repr, Inhabited

namespace Routine

def name : Routine → String
  | wrap => "m"
  | unwrap => "extract_value"
  | isCell => "is_mutable"
  | isNull => "ISNULL"
  | negate => "NOT"
  | concat => "CONCAT"
  | range => "mrange"
  | tableOf => "PLTABLE_OF"
  | executeInto => "execute_immediate_into"
  | locals => "locals"
  | chr => "PLGLOBALS.CHR"
  | instr => "PLGLOBALS.INSTR"
  | length => "PLGLOBALS.LENGTH"
  | lower => "PLGLOBALS.LOWER"
  | mod => "PLGLOBALS.MOD"
  | nvl => "PLGLOBALS.NVL"
  | exception => "PLGLOBALS.EXCEPTION"
  | raiseError => "PLGLOBALS.RAISE_APPLICATION_ERROR"
  | replace => "PLGLOBALS.REPLACE"
  | substr => "PLGLOBALS.SUBSTR"
  | sysContext => "PLGLOBALS.SYS_CONTEXT"
  | toChar => "PLGLOBALS.TO_CHAR"
  | toNumber => "PLGLOBALS.TO_NUMBER"
  | trim => "PLGLOBALS.TRIM"
  | trimLeft => "PLGLOBALS.LTRIM"
  | trimRight => "PLGLOBALS.RTRIM"
  | pad => "PLGLOBALS.padstr"
  | padLeft => "PLGLOBALS.LPAD"
  | padRight => "PLGLOBALS.RPAD"
  | upper => "PLGLOBALS.UPPER"
  | startConnection => "PLCURSOR.startConnection"
  | connection => "PLCURSOR.getConn"
  | setup => "PLCURSOR.SETUP"
  | execute => "PLCURSOR.FULL_EXECUTE"
  | autonomous => "PLCURSOR.AUTONOMOUS_TRANSACTION"
  | commit => "PLCURSOR.commit"
  | rollback => "PLCURSOR.rollback"
  | closeConnection => "PLCURSOR.closeLastConn"
  | isOpen => "PLCURSOR.ISOPEN"
  | rowCount => "PLCURSOR.ROWCOUNT"
  | expectCommit => "MOCKPLCURSOR.EXPECT_COMMIT"
  | expectRollback => "MOCKPLCURSOR.EXPECT_ROLLBACK"
  | expectAutonomous => "MOCKPLCURSOR.EXPECT_IN_AUTONOMOUS_TRANSACTION"
  | expectNormal => "MOCKPLCURSOR.EXPECT_IN_NORMAL_TRANSACTION"
  | putLine => "DBMS_OUTPUT.PUT_LINE"
  | member method => method.path.1.name ++ "." ++ method.path.2

def all : List Routine :=
  [wrap, unwrap, isCell, isNull, negate, concat, range, tableOf, executeInto, chr, instr, length,
    lower, mod, nvl, exception, raiseError, replace, substr, sysContext, toChar, toNumber, trim,
    trimLeft, trimRight, pad, padLeft, padRight, upper, startConnection, connection, setup, execute,
    autonomous, commit, rollback, closeConnection, isOpen, rowCount, expectCommit, expectRollback,
    expectAutonomous, expectNormal, putLine]

def ofName? (name : String) : Option Routine := all.find? (·.name == name)

end Routine

inductive Value where
  /-- What a routine without a result gives. -/
  | none
  | bool (value : Bool)
  | int (value : Int)
  | float (value : Float)
  | text (value : String)
  /-- The absent value of a database. -/
  | null
  | object (address : Address)
  | routine (routine : Routine)
  | library (owner : LibraryClass)
  /-- A thing of a library class that has no state. -/
  | plain (owner : LibraryClass)
  | method (receiver : Address) (method : Method)
  /-- The constructor of tables whose elements another constructor makes. -/
  | tables (element : Value)
  /-- The numbers from one to another. -/
  | range (lower upper : Value)
  | connection (id : Nat)
deriving Inhabited

end BlockScript
