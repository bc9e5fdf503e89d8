import BlockScript.Proofs.Slots

/-!
The cell of a variable of a package. The class that declares the variable has the cell, and a class
that is derived from it has none of its own or takes this one over.
-/

namespace BlockScript.Machine

open Eval

def Derives (m : Machine) (b a : Nat) : Prop :=
  ∃ p : Package, m.store.get? b = some (.package p) ∧ p.bases = [a]

def IsClassOf (m : Machine) (owner b : Nat) : Prop := b = owner ∨ m.Derives b owner

/-- The variable that a class declares has a cell there with a value. -/
structure Holds (owner : Nat) (name : String) (c : Nat) (v : Value) (m : Machine) : Prop where
  declared : m.slot? (.package owner name) = some (.object c)
  cell : m.store.get? c = some (.cell v)
  heirs : ∀ b, m.Derives b owner →
    m.slot? (.package b name) = none ∨ m.slot? (.package b name) = some (.object c)

/-- Nothing happens to a variable of a package: its cell keeps what it has and stays in its place,
and no class gets another one under the name. -/
structure PassesBy (owner : Nat) (name : String) (c : Nat) (m m' : Machine) : Prop where
  declared : m'.slot? (.package owner name) = m.slot? (.package owner name)
  cell : m'.store.get? c = m.store.get? c
  heirs : ∀ b, m'.Derives b owner →
    m'.slot? (.package b name) = none ∨ m'.slot? (.package b name) = some (.object c)

variable {m : Machine}

lemma Follows.derives_iff (follows : m.Follows m') : m'.Derives b a ↔ m.Derives b a :=
  exists_congr fun _ => and_congr_left fun _ => follows.get?_program trivial

lemma Derives.advance (derives : m.Derives b a) (adv : m.Advances m') : m'.Derives b a := by
  obtain ⟨p, found, bases⟩ := derives
  obtain ⟨p', found', same⟩ := adv.package found
  exact ⟨p', found', same.trans bases⟩

lemma Derives.bound_old (derives : (m.bound s v).Derives b a) : m.Derives b a := by
  obtain ⟨p, found, bases⟩ := derives
  have small := get?_lt found
  rw [size_bound] at small
  obtain ⟨p', found', same⟩ := (Advances.bound m s v).package_old small found
  exact ⟨p', found', same.trans bases⟩

lemma IsClassOf.advance (of : m.IsClassOf owner b) (adv : m.Advances m') : m'.IsClassOf owner b :=
  of.imp id fun derives => derives.advance adv

lemma get?_bound_cell (has : m.Has s) (cell : m.IsCell c) :
    (m.bound s v).store.get? c = m.store.get? c := by
  obtain ⟨content, here⟩ := cell
  cases s with
  | global x => rfl
  | frame a x | package a x =>
    obtain ⟨o, found⟩ := has
    have other : a ≠ c := by
      rintro rfl
      cases found.symm.trans here
    simp only [bound, found]
    exact get?_put_of_ne other m _

variable (holds : m.Holds owner name c v)
include holds

lemma Holds.has (of : m.IsClassOf owner b) : m.Has (.package b name) := by
  obtain rfl | ⟨p, found, -⟩ := of
  · exact has_of_slot? holds.declared
  · exact ⟨p, found⟩

lemma Holds.passesBy (follows : m.Follows m') (same : m'.store.get? c = m.store.get? c) :
    m.PassesBy owner name c m' where
  declared := follows.slot? _
  cell := same
  heirs b derives := by
    rw [follows.slot?]
    exact holds.heirs b (follows.derives_iff.1 derives)

lemma Holds.passesBy_push (unnamed : ∀ p, o = .package p → p.members.get? name = none) :
    m.PassesBy owner name c (m.push o) := by
  have old (b) (small : b < m.store.size) :
      (m.push o).slot? (.package b name) = m.slot? (.package b name) := by
    simp [slot?, get?_push_of_lt m o small]
  obtain ⟨p, found, -⟩ := slot?_package_eq_some.1 holds.declared
  refine ⟨old owner (get?_lt found), get?_push_of_lt m o (get?_lt holds.cell), fun b derives => ?_⟩
  obtain ⟨q, here, bases⟩ := derives
  have small := get?_lt here
  rw [size_push] at small
  by_cases last : b = m.store.size
  · subst last
    rw [get?_push_size] at here
    left
    simp only [slot?, get?_push_size, here]
    exact unnamed q (Option.some.inj here)
  · have earlier : b < m.store.size := by omega
    rw [get?_push_of_lt m o earlier] at here
    rw [old b earlier]
    exact holds.heirs b ⟨q, here, bases⟩

lemma Holds.passesBy_bound (has : m.Has s) (other : ∀ b, s ≠ .package b name) :
    m.PassesBy owner name c (m.bound s w) where
  declared := slot?_bound_of_ne has (other owner).symm
  cell := get?_bound_cell has ⟨v, holds.cell⟩
  heirs b derives := by
    rw [slot?_bound_of_ne has (other b).symm]
    exact holds.heirs b derives.bound_old

lemma Holds.pass (passes : m.PassesBy owner name c m') : m'.Holds owner name c v :=
  ⟨passes.declared.trans holds.declared, passes.cell.trans holds.cell, passes.heirs⟩

lemma Holds.packageMember? (of : m.IsClassOf owner b) :
    Library.packageMember? m.store name (m.store.size + 1) b = some (.object c) := by
  obtain ⟨p, found, bound⟩ := slot?_package_eq_some.1 holds.declared
  have base (steps) : Library.packageMember? m.store name (steps + 1) owner = some (.object c) := by
    rw [Library.packageMember?, found]
    dsimp only
    rw [bound]
  obtain rfl | derives := of
  · exact base _
  · obtain ⟨p', found', bases⟩ := derives
    obtain ⟨size, more⟩ := Nat.exists_eq_succ_of_ne_zero (Nat.ne_zero_of_lt (get?_lt found))
    rw [Library.packageMember?, found']
    dsimp only
    cases own : p'.members.get? name with
    | some w =>
      have here : m.slot? (.package b name) = some w := slot?_package_eq_some.2 ⟨p', found', own⟩
      obtain none | same := holds.heirs b ⟨p', found', bases⟩
      · cases none.symm.trans here
      · exact here.symm.trans same
    | none => rw [bases, more, List.findSome?_cons, base size]

lemma Holds.member_eq (of : m.IsClassOf owner b) :
    Library.member (.object b) name m = .ok (.object c) m := by
  obtain ⟨p, found⟩ := holds.has of
  rw [Library.member, bind_ok (load?_eq m b), found]
  change Library.ofOption (Library.packageMember? m.store name (m.store.size + 1) b) m = _
  rw [holds.packageMember? of]
  rfl

lemma Holds.take (of : m.IsClassOf owner b) :
    (m.bound (.package b name) (.object c)).Holds owner name c v := by
  have has := holds.has of
  have slots (a) : (m.bound (.package b name) (.object c)).slot? (.package a name) =
      if a = b then some (.object c) else m.slot? (.package a name) := by
    split
    case isTrue same =>
      subst same
      exact slot?_bound_self has
    case isFalse other =>
      refine slot?_bound_of_ne has fun same => other ?_
      cases same
      rfl
  refine ⟨?_, ?_, fun a derives => ?_⟩
  · rw [slots]
    split
    · rfl
    · exact holds.declared
  · rw [get?_bound_cell has ⟨v, holds.cell⟩]
    exact holds.cell
  · rw [slots]
    split
    · exact .inr rfl
    · exact holds.heirs a derives.bound_old

end BlockScript.Machine
