import BlockScript.Proofs.Slots

/-!
What a name stands for where a piece of a block or a routine runs.
-/

namespace BlockScript

namespace Machine

lemma Grows.advances (grows : Grows m m') : Advances m m' := by
  have old (a) (small : a < m.store.size) : m'.store.get? a = m.store.get? a := by
    have found : m.store.get? a = some _ := Array.getElem?_eq_getElem small
    rw [found]
    exact grows.kept a _ found
  refine ⟨?_, fun a small => by rw [old a small]⟩
  rcases Nat.eq_zero_or_pos m.store.size with empty | pos
  · omega
  · have last : m.store.size - 1 < m.store.size := by omega
    have found : m.store.get? (m.store.size - 1) = some _ := Array.getElem?_eq_getElem last
    have kept := get?_lt (grows.kept _ _ found)
    omega

lemma Grows.slot? (grows : Grows m m') (known : m.slot? s = some v) : m'.slot? s = some v :=
  slot?_kept grows.globals (fun _ => grows.kept _ _) known

end Machine

namespace Run

open Target Eval Machine

/-- `Owner m name passed frame owner`: from a frame outwards, past some frames, the first one that
has a name as its own. -/
inductive Owner (m : Machine) (name : String) :
    List Nat → Option Address → Option Address → Prop where
  | program : Owner m name [] none none
  | own (found : m.store.get? a = some (.frame f)) (own : name ∈ f.own) :
      Owner m name [a] (some a) (some a)
  | around (found : m.store.get? a = some (.frame f)) (other : name ∉ f.own)
      (outer : Owner m name passed f.outer owner) : Owner m name (a :: passed) (some a) owner

variable {name : String} {frame : Option Address}

namespace Owner

variable {frame : Option Address}

lemma unique (first : Owner m name passed frame owner)
    (second : Owner m name passed' frame owner') : passed = passed' := by
  induction first generalizing passed' owner' with
  | program => cases second; rfl
  | own found own =>
    cases second with
    | own => rfl
    | around found' other => grind
  | around found other outer ih =>
    cases second with
    | own found' own => grind
    | around found' _ outer' => grind

section

variable (owns : Owner m name passed frame owner)
include owns

lemma from_passed (mem : a ∈ passed) :
    ∃ rest, Owner m name rest (some a) owner ∧ rest.length ≤ passed.length := by
  induction owns with
  | program => cases mem
  | own found own =>
    cases mem_singleton.1 mem
    exact ⟨_, .own found own, Nat.le_refl _⟩
  | around found other outer ih =>
    obtain rfl | mem := mem_cons.1 mem
    · exact ⟨_, .around found other outer, Nat.le_refl _⟩
    · obtain ⟨rest, owns, short⟩ := ih mem
      exact ⟨rest, owns, Nat.le_succ_of_le short⟩

lemma nodup : passed.Nodup := by
  induction owns with
  | program => exact List.nodup_nil
  | own => exact nodup_cons.2 ⟨not_mem_nil, List.nodup_nil⟩
  | around found other outer ih =>
    refine nodup_cons.2 ⟨fun again => ?_, ih⟩
    obtain ⟨rest, owns, short⟩ := outer.from_passed again
    rw [← (Owner.around found other outer).unique owns, length_cons] at short
    omega

lemma small : ∀ a ∈ passed, a < m.store.size := by
  induction owns with
  | program => exact nofun
  | own found own => exact List.forall_mem_singleton.2 (get?_lt found)
  | around found other outer ih => exact forall_mem_cons.2 ⟨get?_lt found, ih⟩

lemma passed_le : passed.length ≤ m.store.size := by
  have among : passed ⊆ List.range m.store.size := fun a mem => List.mem_range.2 (owns.small a mem)
  have few := (List.subperm_of_subset owns.nodup among).length_le
  rwa [List.length_range] at few

lemma frameName_eq (known : m.slot? (Place.slot { frame := owner } name) = some v) :
    ∀ cause steps, passed.length ≤ steps → frameName name cause steps frame m = .ok v m := by
  induction owns with
  | program =>
    intro cause steps _
    cases steps <;> exact globalName_eq known
  | own found own =>
    intro cause steps enough
    obtain ⟨steps, rfl⟩ := Nat.exists_eq_succ_of_ne_zero (Nat.ne_of_gt enough)
    obtain ⟨f, found', here⟩ := slot?_frame_eq_some.1 known
    cases found.symm.trans found'
    rw [frameName, bind_ok (frameAt_eq found), if_pos (contains_iff_mem.2 own), here]
    rfl
  | @around _ f _ _ found other outer ih =>
    intro cause steps enough
    obtain ⟨steps, rfl⟩ := Nat.exists_eq_succ_of_ne_zero (Nat.ne_zero_of_lt enough)
    have unowned : ¬ f.own.contains name = true := fun own => other (contains_iff_mem.1 own)
    rw [frameName, bind_ok (frameAt_eq found), if_neg unowned]
    exact ih known .unknownName steps (Nat.le_of_succ_le_succ enough)

end

lemma lookUp_eq (outside : place.package = none) (owns : Owner m name passed place.frame owner)
    (known : m.slot? (Place.slot { frame := owner } name) = some v) :
    lookUp place name m = .ok v m := by
  rw [lookUp_outside outside]
  exact owns.frameName_eq known .unsetLocal m.store.size owns.passed_le

end Owner

lemma Owner.carry (owns : Owner m name passed frame owner)
    (frames : ∀ a f, m.store.get? a = some (.frame f) →
      ∃ f', m'.store.get? a = some (.frame f') ∧ f'.own = f.own ∧ f'.outer = f.outer) :
    Owner m' name passed frame owner := by
  induction owns with
  | program => exact .program
  | own found own =>
    obtain ⟨f, found', same, -⟩ := frames _ _ found
    exact .own found' (same ▸ own)
  | around found other outer ih =>
    obtain ⟨f, found', same, outside⟩ := frames _ _ found
    exact .around found' (same ▸ other) (outside ▸ ih)

def Place.Sees (place : Place) (m : Machine) (name : String) (v : Value) : Prop :=
  place.package = none ∧ ∃ passed owner, Owner m name passed place.frame owner ∧
    m.slot? (slot { frame := owner } name) = some v

/-- A name is bound where it is declared: it is one of the program, or belongs to the frame
there. -/
def Place.Binds (place : Place) (m : Machine) (name : String) : Prop :=
  place.package = none ∧
    ∀ a, place.frame = some a → ∃ f, m.store.get? a = some (.frame f) ∧ name ∈ f.own

namespace Place

variable {place : Place}

lemma Sees.lookUp (sees : place.Sees m name v) : lookUp place name m = .ok v m := by
  obtain ⟨outside, passed, owner, owns, known⟩ := sees
  exact owns.lookUp_eq outside known

lemma Sees.unique (first : place.Sees m name v) (second : place.Sees m name w) : v = w := by
  cases first.lookUp.symm.trans second.lookUp
  rfl

lemma Sees.advance (sees : place.Sees m name v) (adv : Advances m m')
    (kept : ∀ s, s.name = name → m.slot? s = some v → m'.slot? s = some v) :
    place.Sees m' name v := by
  obtain ⟨outside, passed, owner, owns, known⟩ := sees
  exact ⟨outside, passed, owner, owns.carry fun _ _ => adv.frame, kept _ (slot_name _ name) known⟩

lemma Sees.grows (sees : place.Sees m name v) (grows : m.Grows m') : place.Sees m' name v :=
  sees.advance grows.advances fun _ _ => grows.slot?

lemma Sees.of_cells (sees : place.Sees m name v) (globals : m'.globals = m.globals)
    (kept : ∀ a o, m.store.get? a = some o → (∀ content, o ≠ .cell content) →
      m'.store.get? a = some o) : place.Sees m' name v := by
  obtain ⟨outside, passed, owner, owns, known⟩ := sees
  refine ⟨outside, passed, owner, owns.carry fun a f found => ⟨f, kept a _ found nofun, rfl, rfl⟩,
    slot?_kept globals ?_ known⟩
  intro a o program found
  refine kept a o found ?_
  rintro content rfl
  exact program

lemma Binds.advance (binds : place.Binds m name) (adv : Advances m m') : place.Binds m' name := by
  refine ⟨binds.1, fun a here => ?_⟩
  obtain ⟨f, found, own⟩ := binds.2 a here
  obtain ⟨f', found', same, -⟩ := adv.frame found
  exact ⟨f', found', same ▸ own⟩

lemma Binds.has (binds : place.Binds m name) : m.Has (place.slot name) := by
  obtain ⟨frame, pkg, used⟩ := place
  obtain ⟨outside, own⟩ := binds
  cases outside
  cases frame with
  | none => trivial
  | some a =>
    obtain ⟨f, found, -⟩ := own a rfl
    exact ⟨f, found⟩

lemma Binds.sees (binds : place.Binds m name) (known : m.slot? (place.slot name) = some v) :
    place.Sees m name v := by
  obtain ⟨frame, pkg, used⟩ := place
  obtain ⟨outside, own⟩ := binds
  cases outside
  cases frame with
  | none => exact ⟨rfl, [], none, .program, known⟩
  | some a =>
    obtain ⟨f, found, mine⟩ := own a rfl
    exact ⟨rfl, [a], some a, .own found mine, known⟩

end Place
end Run
end BlockScript
