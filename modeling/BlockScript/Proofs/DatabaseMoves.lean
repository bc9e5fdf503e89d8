import Mathlib
import BlockScript.Database

/-!
What can be done to the connections of a database. Every move but a new connection is made on the
connection on top, and whatever a program does to its database comes down to such moves.
-/

namespace BlockScript.Database

inductive Move where
  | connect
  | execute
  | commit
  | rollback
  | close

inductive Moves : Move → Database → Database → Prop
  | connect (d : Database) (target : Snapshot) : Moves .connect d (d.connect target)
  | execute {d : Database} {c : Connection} (top : d.top? = some c) (query binds : Snapshot) :
      Moves .execute d (d.record c.id (.execute query binds))
  | commit {d : Database} {c : Connection} (top : d.top? = some c) : Moves .commit d (d.commit c.id)
  | rollback {d : Database} {c : Connection} (top : d.top? = some c) :
      Moves .rollback d (d.rollback c.id)
  | close (d : Database) : Moves .close d d.closeTop

structure Rests (d d' : Database) : Prop where
  connections : d'.connections = d.connections
  made : d'.made = d.made
  entries : d'.entries = d.entries

inductive Runs : List Move → Database → Database → Prop
  | rest {d d' : Database} (rests : d.Rests d') : Runs [] d d'
  | move {d e e' d' : Database} {move : Move} {moves : List Move} (rests : d.Rests e)
      (moved : Moves move e e') (later : Runs moves e' d') : Runs (move :: moves) d d'

lemma log_record (d : Database) (conn : Nat) (e : Event) :
    (d.record conn e).log = d.log ++ [e] := by
  simp [log, record]

lemma log_connect (d : Database) (target : Snapshot) :
    (d.connect target).log = d.log ++ [.connect target] := d.log_record d.made _

namespace Rests

lemma refl (d : Database) : Rests d d := ⟨rfl, rfl, rfl⟩

lemma trans (first : Rests d d') (second : Rests d' d'') : Rests d d'' where
  connections := second.connections.trans first.connections
  made := second.made.trans first.made
  entries := second.entries.trans first.entries

end Rests

namespace Runs

lemma refl (d : Database) : Runs [] d d := .rest (.refl d)

lemma of_moves {move : Move} (moved : Moves move d d') : Runs [move] d d' :=
  .move (.refl d) moved (.refl d')

lemma of_rests (rests : d.Rests d') (runs : Runs moves d' d'') : Runs moves d d'' := by
  cases runs with
  | rest second => exact .rest (rests.trans second)
  | move second moved later => exact .move (rests.trans second) moved later

lemma trans (first : Runs moves d d') (second : Runs moves' d' d'') :
    Runs (moves ++ moves') d d'' := by
  induction first with
  | rest rests => exact second.of_rests rests
  | move rests moved _ ih => exact .move rests moved (ih second)

end Runs
end BlockScript.Database
