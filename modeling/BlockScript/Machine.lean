import BlockScript.Database
import BlockScript.Failure

/-!
The machine that programs run on: a store of objects, the names of the program, the database, and
what was printed.
-/

namespace BlockScript

structure Machine where
  store : Store := ⟨#[.cell (.int 0)]⟩
  /-- The names of the program itself. -/
  globals : Bindings := []
  /-- The number of the last error and its text. -/
  errorCode : Value := .object 0
  errorText : Value := .null
  database : Database := {}
  printed : List String := []
  /-- What is being handled, the innermost first. -/
  handling : List Failure := []
  /-- The number of calls that are going on. -/
  depth : Nat := 0

abbrev Eval := EStateM Stop Machine

namespace Eval

def fail (cause : Failure) : Eval α := throw (.failed cause)

def load? (a : Address) : Eval (Option Object) := do return (← get).store.get? a

def allocate (o : Object) : Eval Address := do
  let machine ← get
  set { machine with store := machine.store.push o }
  return machine.store.size

def new (o : Object) : Eval Value := do return .object (← allocate o)

def put (a : Address) (o : Object) : Eval Unit :=
  modify fun machine => { machine with store := machine.store.set a o }

def objectOf? (v : Value) : Eval (Option Object) :=
  match v with
  | .object a => load? a
  | _ => return none

def snapshot (v : Value) : Eval Snapshot := do return .take (← get).store v

def depthLimit : Nat := 1000

def cell? (v : Value) : Eval (Option (Address × Value)) := do
  match v with
  | .object a =>
    match ← load? a with
    | some (.cell content) => return some (a, content)
    | _ => return none
  | _ => return none

def unwrap (v : Value) : Eval Value := do
  match ← cell? v with
  | some (_, content) => return content
  | none => return v

/-- Puts a value into a new cell. -/
def wrap (v : Value) : Eval Value := do
  match v with
  | .none => new (.cell .null)
  | .plain .solid => return v
  | .object a =>
    match ← load? a with
    | some (.cell _) | some (.cursor _) | some (.mock _) => return v
    | some _ => new (.cell v)
    | none => new (.cell .null)
  | _ => new (.cell v)

def isAbsent (v : Value) : Eval Bool := do
  match ← unwrap v with
  | .null => return true
  | .text s => return s.isEmpty
  | _ => return false

end Eval
end BlockScript
