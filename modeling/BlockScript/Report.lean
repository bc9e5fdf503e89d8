import BlockScript.Run

/-!
What a run of a program leaves behind: what it printed, what it failed with, its variables, what the
database saw, and the state of the library.
-/

namespace BlockScript

structure Status where
  errorCode : Snapshot
  errorText : Snapshot
  rowCount : Snapshot
  connections : Nat

def Machine.status (machine : Machine) : Status :=
  { errorCode := .take machine.store machine.errorCode
    errorText := .take machine.store machine.errorText
    rowCount := .take machine.store machine.database.rowCount
    connections := machine.database.connections.length }

def Machine.lines (machine : Machine) : List String :=
  machine.printed.flatMap fun text => text.splitOn "\n"

structure Report where
  lines : List String
  failure : Option Failure
  bindings : List (String × Snapshot)
  events : List Event
  status : Status

def Target.Program.ownNames (p : Target.Program) : List String :=
  ((boundInAll p.body).mergeSort (· ≤ ·)).eraseReps

def Report.of (p : Target.Program) (machine : Machine) (failure : Option Failure) : Report :=
  { lines := machine.lines
    failure
    bindings := p.ownNames.filterMap fun name =>
      (machine.globals.get? name).map fun v => (name, .ofVariable machine.store v)
    events := machine.database.log
    status := machine.status }

namespace Run

def report? (steps : Nat) (p : Target.Program) : Option Report :=
  match (executeAll {} steps p.body).run {} with
  | .ok _ machine => some (.of p machine none)
  | .error (.failed cause) machine => some (.of p machine (some cause))
  | .error .exhausted _ => none

end Run
end BlockScript
