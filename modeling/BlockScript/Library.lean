import BlockScript.Library.Standard
import BlockScript.Library.Table

/-!
The library as programs see it: what its packages hold, what its things have as members, and what
comes of calling its routines and constructors.
-/

namespace BlockScript.Library

open Eval

def classMember? (owner : LibraryClass) (name : String) : Eval (Option Value) := do
  match owner, name with
  | .standard, "OTHERS" => return some (.library (.exception .general))
  | .standard, "LOGIN_DENIED" => return some (.library (.exception .loginDenied))
  | .standard, "SQL" => return some (.library .cursors)
  | .standard, "SQLCODE" => return some (← get).errorCode
  | .standard, "SQLERRM" => return some (← get).errorText
  | .cursors, "CURSOR" => return some (.library .cursor)
  | .cursors, "rowcount" => return some (← get).database.rowCount
  | .cursors, "_connection_string" => return some (← get).database.target
  | .mocks, "MOCKSQL" => return some (.library .mock)
  | _, _ =>
    match Routine.ofName? (owner.name ++ "." ++ name) with
    | some r => return some (.routine r)
    | none => return (Method.find? owner name).map fun m => .routine (.member m)

def packageMember? (s : Store) (name : String) : Nat → Address → Option Value
  | 0, _ => none
  | steps + 1, a =>
    match s.get? a with
    | some (.package p) =>
      match p.members.get? name with
      | some v => some v
      | none => p.bases.findSome? (packageMember? s name steps)
    | _ => none

def ofOption (o : Option Value) : Eval Value :=
  match o with
  | some v => return v
  | none => fail .noMember

def methodOf (owner : LibraryClass) (a : Address) (name : String) : Eval Value :=
  match Method.find? owner name with
  | some m => return .method a m
  | none => fail .noMember

def member (v : Value) (name : String) : Eval Value := do
  match v with
  | .library c | .plain c => ofOption (← classMember? c name)
  | .object a =>
    match ← load? a with
    | some (.cell content) => if name == "value" then return content else fail .noMember
    | some (.record fields) =>
      if name == "keys" then return .method a .recordKeys else Record.field a fields name
    | some (.table items element) =>
      match name with
      | "inner_list" => new (.list items)
      | "default_ctor" => return element
      | _ => methodOf .table a name
    | some (.cursor c) =>
      match name with
      | "sql" => return c.query
      | "sql_binds" => return c.binds
      | "cursor_params_names" => return c.parameters
      | "found" => return c.found.elim .none .bool
      | "cursor" => return c.execution.elim .none .object
      | _ => methodOf .cursor a name
    | some (.mock m) =>
      match name with
      | "datasource" => match m.rows with
        | some rows => new (.list rows)
        | none => return .none
      | "rowcount" => return m.rowCount
      | "cursor" => return m.execution.elim .none .object
      | _ => methodOf .mock a name
    | some (.package _) =>
      let store := (← get).store
      ofOption (packageMember? store name (store.size + 1) a)
    | some (.member p members) =>
      match members.get? name with
      | some v => return v
      | none =>
        let store := (← get).store
        ofOption (packageMember? store name (store.size + 1) p)
    | _ => fail .noMember
  | _ => fail .noMember

def setMember (target : Value) (name : String) (v : Value) : Eval Unit := do
  match target with
  | .library .standard =>
    if name == "SQLCODE" then modify ({ · with errorCode := v })
    else if name == "SQLERRM" then modify ({ · with errorText := v })
  | .library _ | .plain _ | .null | .routine _ | .tables _ => return
  | .object a =>
    match ← load? a with
    | some (.cell _) => if name == "value" then put a (.cell v)
    | some (.record fields) => put a (.record (fields.set name v))
    | some (.table items _) => if name == "default_ctor" then put a (.table items v)
    | some (.cursor c) => if name == "sql" then put a (.cursor { c with query := v })
    | some (.mock m) => if name == "rowcount" then put a (.mock { m with rowCount := v })
    | some (.package p) => put a (.package { p with members := p.members.set name v })
    | some (.member p members) => put a (.member p (members.set name v))
    | some (.function _) => return
    | _ => fail .noMember
  | _ => fail .noMember

def construct (owner : LibraryClass) (arguments : List Value) : Eval Value :=
  match owner, arguments with
  | .null, [] => return .null
  | .table, [] => new (.table [] (.routine .wrap))
  | .table, [element] => new (.table [] element)
  | .record, [] => new (.record [])
  | .cursor, [query, binds, parameters] => Query.cursor query binds parameters
  | .mock, [pattern] => Query.mock pattern
  | .exception e, _ => return .plain (.exception e)
  | .standard, [] | .cursors, [] | .mocks, [] | .output, [] | .solid, [] => return .plain owner
  | _, _ => fail .unsuited

def putLine (v : Value) : Eval Value := do
  let line ← text v
  modify fun machine => { machine with printed := machine.printed ++ [line] }
  return .none

def ofUnit (action : Eval Unit) : Eval Value := do
  action
  return .none

def applyMethod (a : Address) : Method → List Value → Eval Value
  | .tableDelete, [] => Table.delete a
  | .tableExists, [index] => Table.exists? a index
  | .tableCount, [] | .tableLast, [] => Table.count a
  | .tableFirst, [] => wrap (.int 1)
  | .tableNext, [index] => Table.next a index
  | .tablePrior, [index] => Table.prior index
  | .recordKeys, [] => do
    match ← load? a with
    | some (.record fields) => new (.list (fields.names.map .text))
    | _ => fail .unsuited
  | .cursorOpen, [arguments, locals] => Query.openWith a arguments locals
  | .cursorFetch, targets => Query.fetch a targets
  | .cursorClose, [] => Query.close a
  | .cursorIsOpen, [] => Query.isOpen a
  | .cursorFound, [] => Query.found a
  | .cursorNotFound, [] => Query.notFound a
  | .mockReturns, [data] => do Query.returns a (← member data "value")
  | .mockRowCount, [n] => do Query.setRowCount a (← member n "value")
  | .mockExpectOpenWith, [data] => do Query.expectOpenWith a (← member data "value")
  | _, _ => fail .unsuited

def connectionTarget (v : Value) : Eval Value :=
  match v with
  | .text _ => return v
  | _ => member v "value"

def apply : Routine → List Value → Eval Value
  | .wrap, [] => wrap .none
  | .wrap, [v] => wrap v
  | .unwrap, [v] => unwrap v
  | .isCell, [v] => do return .bool (← cell? v).isSome
  | .isNull, [v] => do wrap (.bool (← isAbsent v))
  | .negate, [v] => Query.negate v
  | .concat, [v, w] => do
    let v ← unwrap v
    let w ← unwrap w
    wrap (.text ((← text v) ++ (← text w)))
  | .range, [lower, upper] => return .range lower upper
  | .tableOf, [element] => return .tables element
  | .executeInto, query :: targets => Query.executeInto query targets
  | .chr, [n] => Standard.chr n
  | .instr, [s, part] => Standard.instr s part
  | .length, [v] => Standard.length v
  | .lower, [v] => Standard.lower v
  | .mod, [n, divisor] => Standard.mod n divisor
  | .nvl, [v, replacement] => Standard.nvl v replacement
  | .exception, [] => return .library (.exception .user)
  | .raiseError, [number, message] => Standard.raiseError number message
  | .replace, [s, search] => Standard.replace s search .null
  | .replace, [s, search, .none] => Standard.replace s search .null
  | .replace, [s, search, replacement] => Standard.replace s search replacement
  | .substr, [s, position] => Standard.substr s position .none
  | .substr, [s, position, length] => Standard.substr s position length
  | .sysContext, [ns, parameter] => Query.sysContext ns parameter
  | .toChar, [v] => Standard.toChar v
  | .toNumber, [v] => Standard.toNumber v
  | .trim, [v] => Standard.trim "strip" (Standard.trimRight ∘ Standard.trimLeft) v
  | .trimLeft, [v] => Standard.trim "lstrip" Standard.trimLeft v
  | .trimRight, [v] => Standard.trim "rstrip" Standard.trimRight v
  | .pad, [toLeft, v, count, fill] => Standard.pad toLeft v count fill
  | .padLeft, [v, count] => Standard.pad (.bool true) v count .none
  | .padLeft, [v, count, fill] => Standard.pad (.bool true) v count fill
  | .padRight, [v, count] => Standard.pad (.bool false) v count .none
  | .padRight, [v, count, fill] => Standard.pad (.bool false) v count fill
  | .upper, [v] => Standard.upper v
  | .startConnection, [] => ofUnit (Connect.start false)
  | .startConnection, [force] => do ofUnit (Connect.start (← truth force))
  | .connection, [] => do return .connection (← Connect.top).id
  | .setup, [target] => do ofUnit (Connect.setup (← connectionTarget target))
  | .execute, [query, binds, locals] => Query.executeOnce query binds locals
  | .autonomous, [] => ofUnit (Connect.start true)
  | .commit, [] => ofUnit Connect.commit
  | .rollback, [] => ofUnit Connect.rollback
  | .closeConnection, [] => ofUnit (Connect.onDatabase (·.closeTop))
  | .isOpen, [] => return .bool false
  | .rowCount, [] => do return (← get).database.rowCount
  | .expectCommit, [] => ofUnit Connect.expectCommit
  | .expectRollback, [] => ofUnit Connect.expectRollback
  | .expectAutonomous, [] => ofUnit (Connect.expectAutonomous true)
  | .expectNormal, [] => ofUnit (Connect.expectAutonomous false)
  | .putLine, [v] => putLine v
  | .member m, .object a :: arguments => applyMethod a m arguments
  | _, _ => fail .unsuited

def rangeBounds (lower upper : Value) : Eval (Int × Int) := do
  let lower ← unwrap lower
  let upper ← unwrap upper
  let stop ← add upper (.int 1)
  match lower.integer?, stop.integer? with
  | some a, some b => return (a, b)
  | _, _ => fail .unsuited

def exports? (package : String) : Option Bindings :=
  let routine (r : Routine) : String × Value := (r.name, .routine r)
  let library (c : LibraryClass) : String × Value := (c.name, .library c)
  -- names of tools that programs cannot refer to
  let tool (name : String) : String × Value := (name, .none)
  match package with
  | "PLHELPER" => some [library .null, routine .unwrap, routine .isCell, routine .wrap,
      library .solid, routine .isNull, routine .negate, routine .concat, routine .range]
  | "PLGLOBALS" => some [tool "sys", routine .wrap, routine .unwrap, routine .isNull, library .null,
      library .cursors, library .standard]
  | "PLCURSOR" => some [tool "deque", tool "List", tool "Dict", tool "cx_Oracle", routine .unwrap,
      routine .wrap, routine .negate, library .null, library .solid, library .record,
      library .cursors, routine .executeInto,
      ("NO_CONNECTION_STRING", .text (Failure.noConnectionString.message?.getD ""))]
  | "MOCKPLCURSOR" => some [tool "mock", tool "List", tool "Dict", tool "Deque", tool "deque",
      tool "ast", tool "re", tool "cx_Oracle", routine .unwrap, library .solid, library .cursors,
      library .mocks]
  | "PLTABLE" => some [routine .wrap, routine .unwrap, library .null, library .table,
      routine .tableOf]
  | "PLRECORD" => some [routine .wrap, routine .unwrap, library .record]
  | "DBMS_OUTPUT" => some [library .output]
  | _ => none

variable (call : Value → List Value → Eval Value)

def callValue (v : Value) (arguments : List Value) : Eval Value := do
  match v with
  | .null => if arguments.isEmpty then return .null else fail .unsuited
  | .routine r => apply r arguments
  | .library c => construct c arguments
  | .method a m => applyMethod a m arguments
  | .tables element =>
    match arguments with
    | [] => construct .table [element]
    | [element] => construct .table [element]
    | _ => fail .unsuited
  | .object a =>
    match ← load? a, arguments with
    | some (.cell _), [] | some (.record _), [] | some (.cursor _), [] | some (.table ..), []
    | some (.table ..), [.none] => return v
    | some (.table ..), [index] => Table.get (call · []) a index
    | some (.package _), [] => new (.member a [])
    | _, _ => fail .unsuited
  | _ => fail .unsuited

def getItem (v index : Value) : Eval Value := do
  match v with
  | .object a =>
    match ← load? a with
    | some (.table ..) => Table.get (call · []) a index
    | _ => item v index
  | _ => item v index

def setItem (target index v : Value) : Eval Unit := do
  match target with
  | .object a =>
    match ← load? a with
    | some (.table ..) => Table.set (call · []) a index v
    | _ => Eval.setItem target index v
  | _ => Eval.setItem target index v

end BlockScript.Library
