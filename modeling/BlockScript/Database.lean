import BlockScript.Snapshot

/-!
The database that programs talk to: connections, one on top of the other, mocks that answer queries,
and a log of what was asked for.
-/

namespace BlockScript

structure Connection where
  id : Nat
  committed : Bool := false
  rolledBack : Bool := false
deriving DecidableEq, Repr

inductive Event where
  | connect (target : Snapshot)
  | execute (query : Snapshot) (binds : Snapshot)
  | commit
  | rollback
  | close

structure Entry where
  connection : Nat
  event : Event

structure Database where
  /-- Where connections are made to. -/
  target : Value := .none
  /-- The open connections, the latest first. -/
  connections : List Connection := []
  /-- The number of connections made so far. -/
  made : Nat := 0
  /-- The mocks that wait for a query, by their patterns and the oldest pattern first. -/
  mocks : List (Value × Address) := []
  /-- The row count of the last execution. -/
  rowCount : Value := .none
  /-- What happened so far, the oldest first. -/
  entries : List Entry := []

namespace Database

def log (d : Database) : List Event := d.entries.map (·.event)

def record (d : Database) (connection : Nat) (e : Event) : Database :=
  { d with entries := d.entries ++ [⟨connection, e⟩] }

def connect (d : Database) (target : Snapshot) : Database :=
  { d.record d.made (.connect target) with
    connections := { id := d.made } :: d.connections
    made := d.made + 1 }

def top? (d : Database) : Option Connection := d.connections.head?

def update (d : Database) (connection : Nat) (f : Connection → Connection) : Database :=
  { d with connections := d.connections.map fun c => if c.id = connection then f c else c }

/-- Closes the connection on top, unless it is the last one. -/
def closeTop (d : Database) : Database :=
  match d.connections with
  | top :: c :: rest => { d.record top.id .close with connections := c :: rest }
  | _ => d

def commit (d : Database) (connection : Nat) : Database :=
  ((d.record connection .commit).update connection ({ · with committed := true })).closeTop

def rollback (d : Database) (connection : Nat) : Database :=
  ((d.record connection .rollback).update connection ({ · with rolledBack := true })).closeTop

end Database
end BlockScript
