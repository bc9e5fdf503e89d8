import BlockScript.Library.Collection
import BlockScript.Library.Connection
import BlockScript.Text.Pattern

/-!
Cursors and the mocks that answer them. A cursor is opened with values for the names in its query;
the query is then executed, which means that it takes the first mock whose pattern occurs in it.
-/

namespace BlockScript.Record

def field (a : Address) (fields : Bindings) (name : String) : Eval Value := do
  match fields.get? name with
  | some v => return v
  | none =>
    let v ← Eval.new (.cell .null)
    Eval.put a (.record (fields.set name v))
    return v

end BlockScript.Record

namespace BlockScript.Query

open Eval

def quoted (name : String) : String := "\"" ++ name ++ "\""

def cursorAt (a : Address) : Eval Cursor := do
  match ← load? a with
  | some (.cursor c) => return c
  | _ => fail .noMember

def mockAt (a : Address) : Eval Mock := do
  match ← load? a with
  | some (.mock m) => return m
  | _ => fail .noMember

def executionAt (a : Address) : Eval Execution := do
  match ← load? a with
  | some (.execution e) => return e
  | _ => fail .noMember

def bindParameters (parameters : List Value) (arguments : Value) : Eval Bindings := do
  (List.zip (List.range parameters.length) parameters).foldlM (fun binds entry => do
    let v ← unwrap (← item arguments (.int entry.1))
    return binds.set (quoted (← text entry.2)) v) []

def bindFields (binds : Bindings) (name : String) (fields : Bindings) : Eval Bindings :=
  fields.foldlM (fun binds field => do
    return binds.set (quoted (name ++ "." ++ field.1)) (← unwrap field.2)) binds

def bindName (parameters locals : Value) (binds : Bindings) (name : Value) : Eval Bindings := do
  if ← hasItem parameters name then return binds
  unless ← hasItem locals name do fail (.notLocal (← text name))
  let v ← unwrap (← item locals name)
  match ← objectOf? v with
  | some (.record fields) => bindFields binds (← text name) fields
  | _ => return binds.set (quoted (← text name)) v

def bind (c : Cursor) (arguments locals : Value) : Eval Bindings := do
  let binds ← bindParameters (← toItems c.parameters) arguments
  (← toItems c.binds).foldlM (bindName c.parameters locals) binds

def answers (query : Value) (mock : Value × Address) : Eval Bool := do
  match mock.1 with
  | .text pattern =>
    match Pattern.read pattern with
    | .error _ => fail .badPattern
    | .ok p =>
      match query with
      | .text q => return p.occursIn q
      | _ => fail .unsuited
  | _ => fail .unsuited

def choose (query : Value) :
    List (Value × Address) → Eval (Option (Address × List (Value × Address)))
  | [] => return none
  | mock :: rest => do
    if ← answers query mock then return some (mock.2, rest)
    return (← choose query rest).map fun found => (found.1, mock :: found.2)

/-- Executes a query on a connection. -/
def execute (connection : Nat) (a : Address) (query : Value) (binds : Bindings) : Eval Unit := do
  put a (.execution { binds })
  let shown ← snapshot query
  let values ← binds.mapM fun b => do return (Snapshot.text b.1, ← snapshot b.2)
  Connect.onDatabase
    (·.record connection (.execute shown (.dict (Snapshot.sortEntries values))))
  match ← choose (← unwrap query) (← get).database.mocks with
  | none => fail .noMock
  | some (mock, others) =>
    Connect.onDatabase ({ · with mocks := others })
    let m ← mockAt mock
    put mock (.mock { m with execution := some a })
    put a (.execution { mock := some mock, rowCount := m.rowCount, binds })

def openWith (a : Address) (arguments locals : Value) : Eval Value := do
  let c ← cursorAt a
  let binds ← bind c arguments locals
  let connection ← Connect.top
  let e ← allocate (.execution { binds })
  put a (.cursor { c with execution := some e })
  execute connection.id e c.query binds
  let rowCount := (← executionAt e).rowCount
  Connect.onDatabase ({ · with rowCount })
  return .none

def nextRow (e : Execution) : Eval Value := do
  match e.mock with
  | none => fail .noMember
  | some a =>
    let m ← mockAt a
    match m.rows with
    | some (row :: rest) =>
      put a (.mock { m with rows := some rest })
      return row
    | _ => return .none

def distribute (row : Value) : Nat → List Value → Eval Unit
  | _, [] => return
  | i, target :: rest => do
    let v ← match ← item row (.int i) with
      | .none => pure Value.null
      | v => pure v
    discard (assign target (← wrap v))
    distribute row (i + 1) rest

def fetch (a : Address) (targets : List Value) : Eval Value := do
  let c ← cursorAt a
  match c.execution with
  | none => fail .noMember
  | some e =>
    let row ← nextRow (← executionAt e)
    have isFound := match row with
      | .none => false
      | _ => true
    put a (.cursor { c with found := some isFound })
    if isFound then distribute row 0 targets
    return .none

def close (a : Address) : Eval Value := do
  let c ← cursorAt a
  if c.execution.isNone then fail .noMember
  put a (.cursor { c with execution := none })
  return .none

def isOpen (a : Address) : Eval Value := do return .bool (← cursorAt a).execution.isSome

def found (a : Address) : Eval Value := do
  match (← cursorAt a).found with
  | none => wrap .null
  | some b => wrap (.bool b)

def negate (v : Value) : Eval Value := do
  let v ← unwrap v
  if ← isAbsent v then wrap .null else wrap (.bool !(← truth v))

def notFound (a : Address) : Eval Value := do negate (← found a)

def cursor (query binds parameters : Value) : Eval Value :=
  new (.cursor { query, binds, parameters })

def executeOnce (query binds locals : Value) : Eval Value := do
  let a ← allocate (.cursor { query, binds, parameters := ← new (.list []) })
  discard (openWith a (← new (.list [])) locals)
  close a

def executeInto (query : Value) (targets : List Value) : Eval Value := do
  let a ← allocate (.cursor { query, binds := ← new (.list []), parameters := ← new (.list []) })
  discard (openWith a (← new (.list [])) (← new (.dict [])))
  unless targets.isEmpty do discard (fetch a targets)
  close a

def sysContext (namespaceName parameter : Value) : Eval Value := do
  let name (s : String) : Value := .text s
  let a ← allocate (.cursor
    { query := .text "select sys_context(:NAMESPACE, :PARAMETER) from dual"
      binds := ← new (.list [name "NAMESPACE", name "PARAMETER"])
      parameters := ← new (.list []) })
  discard (openWith a (← new (.list []))
    (← new (.dict [(name "NAMESPACE", namespaceName), (name "PARAMETER", parameter)])))
  let v ← wrap .none
  discard (fetch a [v])
  discard (close a)
  return v

def mock (pattern : Value) : Eval Value := do
  let a ← allocate (.mock {})
  let pattern ← unwrap pattern
  unless ← isKey pattern do fail .unsuited
  let mocks := (← get).database.mocks
  let mocks ← match ← mocks.findM? fun m => itemsEqual compare pattern m.1 with
    | none => pure (mocks ++ [(pattern, a)])
    | some _ => mocks.mapM fun m => do
        if ← itemsEqual compare pattern m.1 then return (m.1, a) else return m
  Connect.onDatabase ({ · with mocks })
  return .object a

def dataOf (content : Value) : Eval Value := do
  match content with
  | .text s =>
    match Data.read s with
    | .ok d => ofData d
    | .error .malformed => fail .malformedData
    | .error .notData => fail .badValue
    | .error .mutableKey => fail .unsuited
  | _ => fail .badValue

def returns (a : Address) (content : Value) : Eval Value := do
  let rows ← toItems (← dataOf content)
  put a (.mock { ← mockAt a with rows := some rows })
  return .none

def setRowCount (a : Address) (rowCount : Value) : Eval Value := do
  put a (.mock { ← mockAt a with rowCount })
  return .none

def expectOpenWith (a : Address) (content : Value) : Eval Value := do
  let expected ← dataOf content
  match (← mockAt a).execution with
  | none => fail .noMember
  | some e =>
    let binds := (← executionAt e).binds
    let actual ← new (.dict (binds.map fun b => (Value.text b.1, b.2)))
    unless ← holds .eq expected actual do fail .unmetExpectation
    return .none

end BlockScript.Query
