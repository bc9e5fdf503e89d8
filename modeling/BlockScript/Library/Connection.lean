import BlockScript.Machine.Truth

/-!
Connections to the database. The latest one is used until its transaction ends; the first one is
kept.
-/

namespace BlockScript.Connect

open Eval

def onDatabase (f : Database → Database) : Eval Unit :=
  modify fun machine => { machine with database := f machine.database }

def start (isForced : Bool) : Eval Unit := do
  let database := (← get).database
  if !database.connections.isEmpty && !isForced then return
  unless ← truth database.target do fail .noConnectionString
  let target ← snapshot database.target
  onDatabase (·.connect target)

def top : Eval Connection := do
  start false
  match (← get).database.top? with
  | some c => return c
  | none => fail .noConnectionString

def setup (target : Value) : Eval Unit := do
  onDatabase ({ · with target })
  start false

def commit : Eval Unit := do
  let c ← top
  onDatabase (·.commit c.id)

def rollback : Eval Unit := do
  let c ← top
  onDatabase (·.rollback c.id)

def expectCommit : Eval Unit := do
  unless (← top).committed do fail .unmetExpectation

def expectRollback : Eval Unit := do
  unless (← top).rolledBack do fail .unmetExpectation

def expectAutonomous (isExpected : Bool) : Eval Unit := do
  let several := 1 < (← get).database.connections.length
  unless several == isExpected do fail .unmetExpectation

end BlockScript.Connect
