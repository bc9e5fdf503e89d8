import BlockScript.Proofs.RunEffects

/-!
Where names have values: in the program itself, in the frame of a call and in a package.
-/

namespace BlockScript
open Library Bindings Object Option Machine

inductive Slot where
  | global (name : String)
  | frame (a : Nat) (name : String)
  | package (a : Nat) (name : String)
deriving DecidableEq

def Slot.name : Slot → String
  | .global x | .frame _ x | .package _ x => x

def Run.Place.slot (place : Run.Place) (name : String) : Slot :=
  match place.package, place.frame with
  | some a, _ => .package a name
  | none, some a => .frame a name
  | none, none => .global name

def Object.sketch : Object → Object
  | .frame f => .frame { f with values := [] }
  | .package p => .package { p with members := [] }
  | o => o.outline

lemma Bindings.mem_of_get?_setAll :
    ∀ {b : Bindings}, (b.setAll more).get? x = some v → b.get? x = some v ∨ (x, v) ∈ more := by
  induction more with
  | nil => exact fun found => .inl found
  | cons entry more ih =>
    intro b found
    obtain found | mem := ih found
    · by_cases here : x = entry.1
      · subst here
        rw [get?_set_self] at found
        cases found
        exact .inr mem_cons_self
      · rw [get?_set_of_ne b entry.2 here] at found
        exact .inl found
    · exact .inr (mem_cons_of_mem entry mem)

lemma Run.Place.slot_name (place : Run.Place) (name) : (place.slot name).name = name := by
  unfold slot
  split <;> rfl

namespace Machine

def slot? (m : Machine) : Slot → Option Value
  | .global x => m.globals.get? x
  | .frame a x =>
    match m.store.get? a with
    | some (.frame f) => f.values.get? x
    | _ => none
  | .package a x =>
    match m.store.get? a with
    | some (.package p) => p.members.get? x
    | _ => none

def Has (m : Machine) : Slot → Prop
  | .global _ => True
  | .frame a _ => ∃ f, m.store.get? a = some (.frame f)
  | .package a _ => ∃ p, m.store.get? a = some (.package p)

def bound (m : Machine) (s : Slot) (v : Value) : Machine :=
  match s with
  | .global x => { m with globals := m.globals.set x v }
  | .frame a x =>
    match m.store.get? a with
    | some (.frame f) => m.put a (.frame { f with values := f.values.set x v })
    | _ => m
  | .package a x =>
    match m.store.get? a with
    | some (.package p) => m.put a (.package { p with members := p.members.set x v })
    | _ => m

structure Advances (m m' : Machine) : Prop where
  size_le : m.store.size ≤ m'.store.size
  old : ∀ a : Nat, a < m.store.size →
    (m'.store.get? a).map sketch = (m.store.get? a).map sketch

variable {m m' : Machine}

lemma slot?_bound_self (has : m.Has s) : (m.bound s v).slot? s = some v := by
  cases s with
  | global x => exact get?_set_self _ _ _
  | frame a x | package a x =>
    obtain ⟨o, found⟩ := has
    simp only [bound, found, slot?, get?_put_self (get?_lt found)]
    exact get?_set_self _ _ _

lemma slot?_bound_of_ne (has : m.Has s) (other : s' ≠ s) : (m.bound s v).slot? s' = m.slot? s' := by
  cases s with
  | global x =>
    cases s' with
    | global y => exact get?_set_of_ne _ _ fun same => other (by rw [same])
    | frame b y | package b y => rfl
  | frame a x | package a x =>
    obtain ⟨o, found⟩ := has
    cases s' with
    | global y => simp only [bound, found]; rfl
    | frame b y | package b y =>
      by_cases same : a = b
      · -- one object cannot have both kinds of slots
        subst same
        simp only [bound, slot?, found, get?_put_self (get?_lt found)]
        all_goals exact get?_set_of_ne _ _ fun same => other (by rw [same])
      · simp [bound, slot?, found, get?_put_of_ne same]

lemma size_bound (m : Machine) (s : Slot) (v) : (m.bound s v).store.size = m.store.size := by
  unfold bound
  split
  · rfl
  · split
    · exact size_put _ _ _
    · rfl
  · split
    · exact size_put _ _ _
    · rfl

lemma sketch_outline (o : Object) : o.outline.sketch = o.sketch := by
  cases o <;> rfl

lemma Follows.advances (follows : Follows m m') : Advances m m' where
  size_le := follows.size_le
  old a small := by
    have same := congrArg (Option.map Object.sketch) (follows.old a small)
    simpa only [outline?, Option.map_map, Function.comp_def, sketch_outline] using same

namespace Advances

lemma refl (m) : Advances m m := (Follows.refl m).advances

lemma trans (first : Advances m m') (second : Advances m' m'') : Advances m m'' where
  size_le := Nat.le_trans first.size_le second.size_le
  old a small := by
    have larger := first.size_le
    rw [second.old a (by omega), first.old a small]

lemma push (m o) : Advances m (m.push o) where
  size_le := by rw [size_push]; omega
  old a small := by rw [get?_push_of_lt m o small]

lemma put {old : Object} (found : m.store.get? a = some old) (same : o.sketch = old.sketch) :
    Advances m (m.put a o) where
  size_le := Nat.le_of_eq (size_put m a o).symm
  old b small := by
    by_cases here : a = b
    · subst here
      rw [get?_put_self (get?_lt found), found, map_some, map_some, same]
    · rw [get?_put_of_ne here]

lemma bound (m) (s : Slot) (v) : Advances m (m.bound s v) := by
  unfold Machine.bound
  split
  · exact ⟨Nat.le_refl _, fun _ _ => rfl⟩
  · split
    case _ f found => exact put found rfl
    · exact refl m
  · split
    case _ p found => exact put found rfl
    · exact refl m

section

variable (advances : Advances m m')
include advances

lemma get? (found : m.store.get? a = some o) :
    ∃ o', m'.store.get? a = some o' ∧ o'.sketch = o.sketch := by
  have same := advances.old a (get?_lt found)
  simp_all

lemma get?_old (small : a < m.store.size) (found : m'.store.get? a = some o) :
    ∃ o', m.store.get? a = some o' ∧ o'.sketch = o.sketch := by
  have same := advances.old a small
  rw [found] at same
  exact map_eq_some_iff.1 same.symm

lemma function (found : m.store.get? a = some (.function f)) :
    m'.store.get? a = some (.function f) := by
  obtain ⟨o, found', same⟩ := advances.get? found
  cases o <;> cases same
  exact found'

lemma function_old (small : a < m.store.size) (found : m'.store.get? a = some (.function f)) :
    m.store.get? a = some (.function f) := by
  obtain ⟨o, found', same⟩ := advances.get?_old small found
  cases o <;> cases same
  exact found'

lemma frame (found : m.store.get? a = some (.frame f)) :
    ∃ f', m'.store.get? a = some (.frame f') ∧ f'.own = f.own ∧ f'.outer = f.outer := by
  obtain ⟨o, found', same⟩ := advances.get? found
  cases o <;> simp only [sketch, outline, reduceCtorEq, frame.injEq] at same
  injection same with own _ outer
  exact ⟨_, found', own, outer⟩

lemma package (found : m.store.get? a = some (.package p)) :
    ∃ p', m'.store.get? a = some (.package p') ∧ p'.bases = p.bases := by
  obtain ⟨o, found', same⟩ := advances.get? found
  cases o <;> simp only [sketch, outline, reduceCtorEq, package.injEq] at same
  injection same with _ bases
  exact ⟨_, found', bases⟩

lemma package_old (small : a < m.store.size) (found : m'.store.get? a = some (.package p)) :
    ∃ p', m.store.get? a = some (.package p') ∧ p'.bases = p.bases := by
  obtain ⟨o, found', same⟩ := advances.get?_old small found
  cases o <;> simp only [sketch, outline, reduceCtorEq, package.injEq] at same
  injection same with _ bases
  exact ⟨_, found', bases⟩

end

lemma has (advances : Advances m m') (has : m.Has s) : m'.Has s := by
  cases s with
  | global x => trivial
  | frame a x =>
    obtain ⟨f, found⟩ := has
    obtain ⟨f', found', -⟩ := advances.frame found
    exact ⟨f', found'⟩
  | package a x =>
    obtain ⟨p, found⟩ := has
    obtain ⟨p', found', -⟩ := advances.package found
    exact ⟨p', found'⟩

lemma isCell (advances : Advances m m') (small : a < m.store.size) : m'.IsCell a ↔ m.IsCell a := by
  constructor
  · rintro ⟨w, found⟩
    obtain ⟨o, found', same⟩ := advances.get?_old small found
    cases o <;> cases same
    exact ⟨_, found'⟩
  · rintro ⟨w, found⟩
    obtain ⟨o, found', same⟩ := advances.get? found
    cases o <;> cases same
    exact ⟨_, found'⟩

end Advances

lemma IsCell.lt (cell : m.IsCell a) : a < m.store.size := by
  obtain ⟨w, found⟩ := cell
  exact get?_lt found

lemma isCell_bound (s : Slot) (v) : (m.bound s v).IsCell a ↔ m.IsCell a := by
  have advances := Advances.bound m s v
  constructor
  · intro cell
    have small := cell.lt
    rw [size_bound] at small
    exact (advances.isCell small).1 cell
  · intro cell
    exact (advances.isCell cell.lt).2 cell

lemma slot?_frame_eq_some : m.slot? (.frame a x) = some v ↔
    ∃ f, m.store.get? a = some (.frame f) ∧ f.values.get? x = some v := by
  rw [slot?]
  constructor
  · grind
  · grind

lemma slot?_package_eq_some : m.slot? (.package a x) = some v ↔
    ∃ p, m.store.get? a = some (.package p) ∧ p.members.get? x = some v := by
  rw [slot?]
  constructor
  · grind
  · grind

lemma slot?_kept (globals : m'.globals = m.globals)
    (kept : ∀ {a o}, o.IsOfProgram → m.store.get? a = some o → m'.store.get? a = some o)
    (known : m.slot? s = some v) : m'.slot? s = some v := by
  cases s with
  | global x => exact (congrArg (·.get? x) globals).trans known
  | frame a x =>
    obtain ⟨f, found, here⟩ := slot?_frame_eq_some.1 known
    exact slot?_frame_eq_some.2 ⟨f, kept trivial found, here⟩
  | package a x =>
    obtain ⟨p, found, here⟩ := slot?_package_eq_some.1 known
    exact slot?_package_eq_some.2 ⟨p, kept trivial found, here⟩

lemma Follows.slot? (follows : Follows m m') (s : Slot) : m'.slot? s = m.slot? s := by
  refine ext fun v => ⟨?_, ?_⟩
  · exact slot?_kept follows.globals.symm fun program => (follows.get?_program program).1
  · exact slot?_kept follows.globals fun program => (follows.get?_program program).2

lemma has_of_slot? (found : m.slot? s = some v) : m.Has s := by
  cases s with
  | global x => trivial
  | frame a x =>
    obtain ⟨f, here, -⟩ := slot?_frame_eq_some.1 found
    exact ⟨f, here⟩
  | package a x =>
    obtain ⟨p, here, -⟩ := slot?_package_eq_some.1 found
    exact ⟨p, here⟩

end Machine

namespace Machine

inductive Descends (m : Machine) : Nat → Nat → Prop
  | refl (a : Nat) : Descends m a a
  | step {a b c : Nat} {p : Package} (found : m.store.get? a = some (.package p))
      (base : b ∈ p.bases) (rest : Descends m b c) : Descends m a c

/-- What is assigned to a member is assigned to a member of one of the bases if the package has none
itself, and becomes its own by that. -/
inductive Takes (m : Machine) : Slot → Slot → Prop
  | same (s : Slot) : Takes m s s
  | base {a b : Nat} (x : String) (descends : Descends m a b) :
      Takes m (.package a x) (.package b x)

def SameVariable (m : Machine) (s s' : Slot) : Prop :=
  ∃ origin, Takes m s origin ∧ Takes m s' origin

lemma Descends.trans (first : Descends m a b) (second : Descends m b c) : Descends m a c := by
  induction first with
  | refl a => exact second
  | step found base _ ih => exact .step found base (ih second)

lemma Descends.advance (descends : Descends m a b) (advances : Advances m m') :
    Descends m' a b := by
  induction descends with
  | refl a => exact .refl a
  | step found base _ ih =>
    obtain ⟨p', found', bases⟩ := advances.package found
    exact .step found' (bases ▸ base) ih

lemma Takes.trans (first : Takes m s s') (second : Takes m s' s'') : Takes m s s'' := by
  cases first with
  | same => exact second
  | base x descends =>
    cases second with
    | same => exact .base x descends
    | base _ descends' => exact .base x (descends.trans descends')

lemma Takes.advance (takes : Takes m s s') (advances : Advances m m') : Takes m' s s' := by
  cases takes with
  | same => exact .same s
  | base x descends => exact .base x (descends.advance advances)

namespace SameVariable

lemma refl (s : Slot) : SameVariable m s s := ⟨s, .same s, .same s⟩

lemma symm (same : SameVariable m s s') : SameVariable m s' s := by
  obtain ⟨origin, first, second⟩ := same
  exact ⟨origin, second, first⟩

lemma advance (same : SameVariable m s s') (advances : Advances m m') : SameVariable m' s s' := by
  obtain ⟨origin, first, second⟩ := same
  exact ⟨origin, first.advance advances, second.advance advances⟩

lemma take (takes : Takes m s s') (same : SameVariable m s' s'') : SameVariable m s s'' := by
  obtain ⟨origin, first, second⟩ := same
  exact ⟨origin, takes.trans first, second⟩

lemma eq_of_not_package (same : SameVariable m s s') (outside : ∀ a x, s ≠ .package a x) :
    s' = s := by
  obtain ⟨origin, first, second⟩ := same
  cases first with
  | same =>
    cases second with
    | same => rfl
    | base => exact absurd rfl (outside _ _)
  | base => exact absurd rfl (outside _ _)

end SameVariable

lemma packageMember?_slot {name : String} (steps) :
    ∀ a, packageMember? m.store name steps a = some v →
      ∃ b, Descends m a b ∧ m.slot? (.package b name) = some v := by
  induction steps with
  | zero => exact fun a found => nomatch found
  | succ steps ih =>
    intro a found
    unfold packageMember? at found
    split at found
    case _ p here =>
      split at found
      case _ w own =>
        cases found
        exact ⟨a, .refl a, slot?_package_eq_some.2 ⟨p, here, own⟩⟩
      case _ =>
        obtain ⟨base, isBase, found⟩ := List.exists_of_findSome?_eq_some found
        obtain ⟨b, descends, bound⟩ := ih base found
        exact ⟨b, .step here isBase descends, bound⟩
    · cases found

end Machine

open Eval in
lemma Library.ends_member_package (found : m.store.get? a = some (.package p)) (name) :
    Ends Follows (member (.object a) name) m fun v m' =>
      m' = m ∧ ∃ b, m.Descends a b ∧ m.slot? (.package b name) = some v := by
  refine .load ?_
  rw [found]
  change Ends _ (ofOption (packageMember? m.store name (m.store.size + 1) a)) m _
  unfold ofOption
  split
  case _ v here => exact .pure (.refl m) ⟨rfl, packageMember?_slot _ a here⟩
  · exact .fail (.refl m)

lemma Library.setMember_package {name : String} (has : m.Has (.package a name)) (v) :
    Library.setMember (.object a) name v m = .ok () (m.bound (.package a name) v) := by
  obtain ⟨p, found⟩ := has
  simp only [bound]
  refine (Eval.bind_ok (Eval.load?_eq m a)).trans ?_
  rw [found]
  rfl

def Machine.Knows (m : Machine) (name : String) (v : Value) : Prop :=
  (∃ s : Slot, s.name = name ∧ m.slot? s = some v) ∨ name = "locals" ∧ v = .routine .locals

namespace Run

open Eval

lemma call_cell (found : m.store.get? a = some (.cell w)) :
    call (steps + 1) (.object a) [] m = .ok (.object a) m := by
  refine (bind_ok (load?_eq m a)).trans ?_
  rw [found]
  refine (bind_ok (load?_eq m a)).trans ?_
  rw [found]
  rfl

lemma bindName_eq (has : m.Has (place.slot x)) (v) :
    bindName place x v m = .ok () (m.bound (place.slot x) v) := by
  obtain ⟨frame, package, used⟩ := place
  match package, frame with
  | some a, _ => exact setMember_package has v
  | none, some a =>
    obtain ⟨f, found⟩ := has
    simp only [Place.slot, bound, found]
    exact bind_ok (frameAt_eq found)
  | none, none => rfl

lemma ends_globalName (x m) : Ends Follows (globalName x) m fun v m' =>
      m' = m ∧ (m.slot? (.global x) = some v ∨ x = "locals" ∧ v = .routine .locals) := by
  refine .read ?_
  split
  case _ v found => exact .pure (.refl m) ⟨rfl, .inl found⟩
  · split
    case _ same => exact .pure (.refl m) ⟨rfl, .inr ⟨eq_of_beq same, rfl⟩⟩
    · exact .fail (.refl m)

lemma ends_frameName (x m steps) : ∀ (cause) (frame),
      Ends Follows (frameName x cause steps frame) m fun v m' => m' = m ∧ m.Knows x v := by
  have program : Ends Follows (globalName x) m fun v m' => m' = m ∧ m.Knows x v := by
    refine (ends_globalName x m).weaken fun v m' _ found => ⟨found.1, ?_⟩
    exact found.2.imp (fun here => ⟨.global x, rfl, here⟩) id
  induction steps with
  | zero => exact fun cause frame => program
  | succ steps ih =>
    intro cause frame
    cases frame with
    | none => exact program
    | some a =>
      refine .bind .trans (ends_frameAt (.refl m) a) ?_
      rintro f _ - ⟨rfl, found⟩
      split
      · split
        case _ v here =>
          refine .pure (.refl _) ⟨rfl, .inl ⟨.frame a x, rfl, ?_⟩⟩
          exact slot?_frame_eq_some.2 ⟨f, found, here⟩
        · exact .fail (.refl _)
      · exact ih .unknownName f.outer

lemma ends_lookUp (place x m) :
    Ends Follows (lookUp place x) m fun v m' => m' = m ∧ m.Knows x v := by
  refine .read ?_
  split
  case _ a here =>
    refine .load ?_
    split
    case _ p found =>
      split
      case _ v bound =>
        refine .pure (.refl m) ⟨rfl, .inl ⟨.package a x, rfl, ?_⟩⟩
        exact slot?_package_eq_some.2 ⟨p, found, bound⟩
      · exact ends_frameName x m _ _ _
    · exact .fail (.refl m)
  · exact ends_frameName x m _ _ _

lemma ends_lookUp_own (outside : place.package = none)
    (own : ∀ a, place.frame = some a → ∃ f, m.store.get? a = some (.frame f) ∧ x ∈ f.own) :
    Ends Follows (lookUp place x) m fun v m' => m' = m ∧ (m.slot? (place.slot x) = some v ∨
        place.frame = none ∧ x = "locals" ∧ v = .routine .locals) := by
  obtain ⟨frame, package, used⟩ := place
  subst outside
  change Ends _ (frameName x .unsetLocal m.store.size frame) m _
  cases frame with
  | none =>
    have same : frameName x .unsetLocal m.store.size none = globalName x := by
      cases m.store.size <;> rfl
    rw [same]
    exact (ends_globalName x m).weaken fun v m' _ found =>
      ⟨found.1, found.2.imp id fun always => ⟨rfl, always⟩⟩
  | some a =>
    obtain ⟨f, found, mine⟩ := own a rfl
    have small := get?_lt found
    obtain ⟨steps, same⟩ := Nat.exists_eq_succ_of_ne_zero (Nat.ne_of_gt (Nat.zero_lt_of_lt small))
    rw [same]
    refine .bind .trans (.of_ok (frameAt_eq found) (.refl m) (Q := fun g m' => g = f ∧ m' = m)
      ⟨rfl, rfl⟩) ?_
    rintro _ _ - ⟨rfl, rfl⟩
    rw [if_pos (contains_iff_mem.2 mine)]
    split
    case _ v here =>
      exact .pure (.refl _) ⟨rfl, .inl (slot?_frame_eq_some.2 ⟨_, found, here⟩)⟩
    · exact .fail (.refl _)

end Run

end BlockScript
