import BlockScript.Store

namespace BlockScript

inductive Snapshot where
  | none
  | bool (value : Bool)
  | int (value : Int)
  | float (value : Float)
  | text (value : String)
  | null
  | cell (content : Snapshot)
  | sequence (items : List Snapshot)
  | dict (entries : List (Snapshot × Snapshot))
  | table (items : List Snapshot)
  | record (fields : List (String × Snapshot))
  | cursor (query binds parameters : Snapshot) (isOpen : Bool) (found : Option Bool)
  | mock (rows : Option (List Snapshot)) (rowCount : Snapshot) (isUsed : Bool)
  | package (members : List (String × Snapshot))
  | classOf (name : String)
  | function
  | thing (owner : String)
  | cycle
deriving Inhabited

namespace Snapshot

def key : Snapshot → String
  | text s => s
  | int n => toString n
  | _ => ""

def sortFields (fields : List (String × Snapshot)) : List (String × Snapshot) :=
  fields.mergeSort fun a b => a.1 ≤ b.1

def sortEntries (entries : List (Snapshot × Snapshot)) : List (Snapshot × Snapshot) :=
  entries.mergeSort fun a b => a.1.key ≤ b.1.key

def isStatic (s : Store) : Value → Bool
  | .object a =>
    match s.get? a with
    | some (.function f) => f.isStatic
    | _ => false
  | _ => false

/-- The snapshot of a value. The objects around it are those on the path; every step inward adds one
to them, so as many steps as there are objects are enough. -/
def takeWithin (s : Store) : Nat → List Address → Value → Snapshot
  | _, _, .none => none
  | _, _, .bool b => bool b
  | _, _, .int n => int n
  | _, _, .float x => float x
  | _, _, .text t => text t
  | _, _, .null => null
  | _, _, .routine _ | _, _, .method .. | _, _, .tables _ => function
  | _, _, .library c => classOf c.name
  | _, _, .plain c => thing c.name
  | _, _, .range .. => thing "generator"
  | _, _, .connection _ => thing "_FakeConnection"
  | 0, _, .object _ => cycle
  | steps + 1, path, .object a =>
    if path.contains a then cycle
    else
      let inner := takeWithin s steps (a :: path)
      match s.get? a with
      | some (.cell v) => cell (inner v)
      | some (.list items) | some (.tuple items) => sequence (items.map inner)
      | some (.dict entries) => dict (sortEntries (entries.map fun e => (inner e.1, inner e.2)))
      | some (.table items _) => table (items.map inner)
      | some (.record fields) => record (fields.map fun f => (f.1, inner f.2))
      | some (.cursor c) =>
        cursor (inner c.query) (inner c.binds) (inner c.parameters) c.execution.isSome c.found
      | some (.execution _) => thing "_FakeCursor"
      | some (.mock m) => mock (m.rows.map (·.map inner)) (inner m.rowCount) m.execution.isSome
      | some (.package p) => classOf p.name
      | some (.member p _) =>
        match s.get? p with
        | some (.package p) => thing p.name
        | _ => thing ""
      | some (.frame _) | some (.function _) | Option.none => function

def take (s : Store) (v : Value) : Snapshot := takeWithin s (s.size + 1) [] v

def ofVariable (s : Store) (v : Value) : Snapshot :=
  match v with
  | .object a =>
    match s.get? a with
    | some (.package p) =>
      let shown := p.members.filter fun m => !m.1.startsWith "__" && !isStatic s m.2
      package (sortFields (shown.map fun m => (m.1, take s m.2)))
    | _ => take s v
  | _ => take s v

end Snapshot
end BlockScript
