import BlockScript.Proofs.AbsentOperands
import BlockScript.Proofs.ExactNumbers

/-!
The laws of equality. An equality converts its right side into the type of its left side, while
unequality and order take both sides as they are.
-/

namespace BlockScript

open Decimal

inductive Scalar where
  | number (n : Number)
  | text (s : String)

namespace Scalar

variable {x y : Scalar}

def value : Scalar → Value
  | number n => n.toValue
  | text s => .text s

def isNumber : Scalar → Bool
  | number _ => true
  | text _ => false

def written : Scalar → String
  | number (.int n) => toString n
  | number (.float x) => render x
  | text s => s

def Same : Scalar → Scalar → Prop
  | number x, number y => x.Same y
  | text s, text t => s = t
  | _, _ => False

def turned? : Scalar → Scalar → Option Scalar
  | number (.int _), number (.int n) => some (number (.int n))
  | number (.int _), number (.float x) => (truncate? x).map fun n => number (.int n)
  | number (.int _), text s => (readInt? s).map fun n => number (.int n)
  | number (.float _), number n => n.toFloat.toOption.map fun x => number (.float x)
  | number (.float _), text s => (read? s).map fun x => number (.float x)
  | text _, v => some (text v.written)

/-- The second scalar becomes the same as the first only by being turned into its type. -/
def Confused (x y : Scalar) : Prop := ¬ x.Same y ∧ ∃ z, x.turned? y = some z ∧ x.Same z

lemma Same.symm (same : x.Same y) : y.Same x := by
  cases x with
  | number x =>
    cases y with
    | number y => exact Number.Same.symm same
    | text t => exact same
  | text s =>
    cases y with
    | number y => exact same
    | text t => exact Eq.symm same

lemma Same.turned (same : x.Same y) (turned : x.turned? y = some z) : x.Same z := by
  cases x with
  | text s =>
    cases y with
    | number y => cases same
    | text t =>
      cases turned
      exact same
  | number x =>
    cases y with
    | text t => cases same
    | number y =>
      cases x with
      | int a =>
        cases y with
        | int b =>
          cases turned
          exact same
        | float y =>
          rw [turned?, truncate?_of_toInt? same] at turned
          cases turned
          rfl
      | float x =>
        cases y with
        | int b =>
          simp only [turned?, Number.toFloat] at turned
          split at turned
          · cases turned
          · cases turned
            exact beq_ofInt same
        | float y =>
          cases turned
          exact same

end Scalar

namespace Eval

variable {m : Machine}

def Returns (x : Eval Value) (m : Machine) : Prop := ∃ v m', x m = .ok v m'

def asking : Ordering → Comparison
  | .eq => .eq
  | .lt => .lt
  | .gt => .gt

/-- The truth value in the cell that a comparison of cells gives. -/
def verdict (op : Comparison) (a b : Address) (m : Machine) : Option Bool :=
  match compare op (.object a) (.object b) m with
  | .ok (.object c) m' =>
    match m'.store.get? c with
    | some (.cell (.bool t)) => some t
    | _ => none
  | _ => none

lemma verdict_of_givesCell (gives : GivesCell (.bool t) (compare op (.object a) (.object b)) m) :
    verdict op a b m = some t := by
  unfold verdict
  rw [gives]
  simp [Machine.get?_push_size]

def Converts {α : Type} (f : Eval α) (m : Machine) : Option α → Prop
  | some r => f m = .ok r m
  | none => ∃ stop, f m = .error stop m

lemma Converts.map {r : Option α} (converts : Converts f m r) (g : α → β) :
    Converts (f >>= fun a => pure (g a)) m (r.map g) := by
  cases r with
  | none =>
    obtain ⟨stop, failed⟩ := converts
    exact ⟨stop, bind_error failed⟩
  | some a => exact bind_ok converts

section

variable (m : Machine) (steps : Nat)

lemma converts_toInteger_float (x : Float) :
    Converts (toInteger (.float x)) m (truncate? x) := by
  simp only [toInteger]
  cases truncate? x with
  | none => exact ⟨_, rfl⟩
  | some n => rfl

lemma converts_toInteger_text (s : String) :
    Converts (toInteger (.text s)) m (readInt? s) := by
  simp only [toInteger]
  cases readInt? s with
  | none => exact ⟨_, rfl⟩
  | some n => rfl

lemma converts_toFloat_text (s : String) : Converts (toFloat (.text s)) m (read? s) := by
  simp only [toFloat]
  cases read? s with
  | none => exact ⟨_, rfl⟩
  | some x => rfl

lemma converts_toFloat_int (n : Int) :
    Converts (toFloat (.int n)) m (Number.int n).toFloat.toOption := by
  simp only [toFloat, Value.number?]
  cases (Number.int n).toFloat with
  | error failure => exact ⟨_, rfl⟩
  | ok x => rfl

lemma converts_likened (x y : Scalar) :
    Converts (likened x.value y.value) m ((x.turned? y).map Scalar.value) := by
  cases x with
  | text s =>
    cases y with
    | text t => rfl
    | number y => cases y <;> rfl
  | number x =>
    cases x with
    | int a =>
      cases y with
      | text t =>
        rw [Scalar.turned?, Option.map_map]
        exact (converts_toInteger_text m t).map Value.int
      | number y =>
        cases y with
        | int b => rfl
        | float y =>
          rw [Scalar.turned?, Option.map_map]
          exact (converts_toInteger_float m y).map Value.int
    | float x =>
      cases y with
      | text t =>
        rw [Scalar.turned?, Option.map_map]
        exact (converts_toFloat_text m t).map Value.float
      | number y =>
        cases y with
        | int b =>
          rw [Scalar.turned?, Option.map_map]
          exact (converts_toFloat_int m b).map Value.float
        | float y => rfl

/-- What a comparison of numbers says; of those that have no order, only that they are not equal. -/
def decided (op : Comparison) : Option Ordering → Bool
  | some o => op.holds o
  | none => op == .ne

lemma eq_some_of_decided (told : decided (asking o) r = true) : r = some o := by
  cases r with
  | none => cases o <;> cases told
  | some o' => cases o <;> exact congrArg some (beq_iff_eq.1 told)

lemma compareWithin_numbers (op) (x y : Number) :
    compareWithin (steps + 1) op x.toValue y.toValue m =
      .ok (.bool (decided op (x.order? y))) m := by
  have bare : compareBare (compareWithin steps) op x.toValue y.toValue m =
      .ok (some (.bool (decided op (x.order? y)))) m := by
    have left : x.toValue.number? = some x := by cases x <;> rfl
    have right : y.toValue.number? = some y := by cases y <;> rfl
    simp only [compareBare, left, right]
    cases x.order? y <;> rfl
  cases x with
  | int | float => exact bind_ok bare

lemma compareWithin_texts (op) (s t : String) : compareWithin (steps + 1) op (.text s) (.text t) m =
      .ok (.bool (op.holds (Ord.compare s t))) m := rfl

lemma compareWithin_scalars (x y : Scalar) : ∃ e, (e = true ↔ x.Same y) ∧
      compareWithin (steps + 1) .eq x.value y.value m = .ok (.bool e) m ∧
      compareWithin (steps + 1) .ne x.value y.value m = .ok (.bool !e) m := by
  cases x with
  | number x =>
    cases y with
    | number y =>
      refine ⟨decided .eq (x.order? y), ?_, compareWithin_numbers m steps .eq x y, ?_⟩
      · rw [Scalar.Same, ← Number.order?_eq_iff]
        cases x.order? y with
        | none => simp [decided]
        | some o => simp [decided, Comparison.holds]
      · rw [Scalar.value, Scalar.value, compareWithin_numbers]
        cases x.order? y <;> rfl
    | text t =>
      refine ⟨false, by simp [Scalar.Same], ?_, ?_⟩
      · cases x <;> rfl
      · cases x <;> rfl
  | text s =>
    cases y with
    | number y =>
      refine ⟨false, by simp [Scalar.Same], ?_, ?_⟩
      · cases y <;> rfl
      · cases y <;> rfl
    | text t =>
      refine ⟨Ord.compare s t == .eq, ?_, compareWithin_texts m steps .eq s t,
        compareWithin_texts m steps .ne s t⟩
      rw [beq_iff_eq]
      exact Std.compare_eq_iff_eq

end

section

variable {a b : Address} {x y : Scalar} (left : m.store.get? a = some (.cell x.value))
  (right : m.store.get? b = some (.cell y.value)) {u v : Number}
include left right

/-- An equality that returns tells whether the right side, turned into the type of the left one, has
the same value. -/
lemma verdict_eq (returns : Returns (compare .eq (.object a) (.object b)) m) :
    ∃ (e : Bool) (z : Scalar),
      verdict .eq a b m = some e ∧ x.turned? y = some z ∧ (e = true ↔ x.Same z) := by
  have converts := converts_likened m x y
  obtain ⟨v, m', result⟩ := returns
  rw [compare_contents .eq left right, if_pos rfl] at result
  cases turned : x.turned? y with
  | none =>
    rw [turned] at converts
    obtain ⟨stop, failed⟩ := converts
    rw [bind_error failed] at result
    cases result
  | some z =>
    rw [turned] at converts
    obtain ⟨e, same, equal, -⟩ := compareWithin_scalars m 998 x z
    refine ⟨e, z, verdict_of_givesCell ?_, rfl, same⟩
    unfold GivesCell
    rw [compare_contents .eq left right, if_pos rfl, bind_ok converts, bind_ok equal, wrap_bool]

lemma verdict_ne : ∃ n, verdict .ne a b m = some n ∧ (n = false ↔ x.Same y) := by
  obtain ⟨e, same, -, unequal⟩ := compareWithin_scalars m 998 x y
  refine ⟨!e, verdict_of_givesCell ?_, by simpa using same⟩
  unfold GivesCell
  rw [compare_contents .ne left right, if_neg (by decide), bind_ok unequal, wrap_bool]

omit left right

lemma verdict_numbers (left : m.store.get? a = some (.cell u.toValue))
    (right : m.store.get? b = some (.cell v.toValue)) (plain : op ≠ .eq) :
    verdict op a b m = some (decided op (u.order? v)) := by
  apply verdict_of_givesCell
  unfold GivesCell
  rw [compare_contents op left right, if_neg plain, bind_ok (compareWithin_numbers m 998 op u v),
    wrap_bool]

lemma order?_of_verdict (left : m.store.get? a = some (.cell u.toValue))
    (right : m.store.get? b = some (.cell v.toValue))
    (exact : verdict .eq a b m = some true → u.Same v)
    (told : verdict (asking o) a b m = some true) : u.order? v = some o := by
  by_cases equality : o = .eq
  · subst equality
    exact Number.order?_eq_iff.2 (exact told)
  · have plain : asking o ≠ .eq := by cases o <;> first | decide | exact absurd rfl equality
    rw [verdict_numbers left right plain, Option.some.injEq] at told
    exact eq_some_of_decided told

include left right

/-- Where both equalities of two scalars return, unequality returns as well, and so do the strict
orders of numbers. Equality is then symmetric, the opposite of unequality and, on numbers, exclusive
with the strict orders, if and only if neither side becomes the same as the other only by being
turned into its type. -/
theorem equality_lawful_iff (there : Returns (compare .eq (.object a) (.object b)) m)
    (back : Returns (compare .eq (.object b) (.object a)) m) :
    ∃ e e' n : Bool,
      verdict .eq a b m = some e ∧ verdict .eq b a m = some e' ∧ verdict .ne a b m = some n ∧
      (x.isNumber → y.isNumber →
        (verdict .lt a b m).isSome ∧ (verdict .gt a b m).isSome) ∧
      ((e = e' ∧ n = !e ∧ (x.isNumber → y.isNumber → ∀ o o',
          verdict (asking o) a b m = some true → verdict (asking o') a b m = some true → o = o')) ↔
        ¬ x.Confused y ∧ ¬ y.Confused x) := by
  obtain ⟨e, z, equal, turned, there_iff⟩ := verdict_eq left right there
  obtain ⟨e', z', equal', turned', back_iff⟩ := verdict_eq right left back
  obtain ⟨n, unequal, same_iff⟩ := verdict_ne left right
  refine ⟨e, e', n, equal, equal', unequal, ?_, ?_, ?_⟩
  · intro first second
    cases x with
    | text s => cases first
    | number u =>
      cases y with
      | text t => cases second
      | number v =>
        rw [verdict_numbers left right (by decide), verdict_numbers left right (by decide)]
        exact ⟨rfl, rfl⟩
  · rintro ⟨symmetric, opposite, -⟩
    have faithful : e = true → x.Same y := by
      intro yes
      apply same_iff.1
      rw [opposite, yes]
      rfl
    constructor
    · rintro ⟨different, w, becomes, same⟩
      cases turned.symm.trans becomes
      exact different (faithful (there_iff.2 same))
    · rintro ⟨different, w, becomes, same⟩
      cases turned'.symm.trans becomes
      exact different (faithful (symmetric.trans (back_iff.2 same))).symm
  · rintro ⟨unconfused, unconfused'⟩
    have faithful : e = true ↔ x.Same y := by
      constructor
      · intro yes
        by_contra different
        exact unconfused ⟨different, z, turned, there_iff.1 yes⟩
      · intro same
        exact there_iff.2 (same.turned turned)
    have faithful' : e' = true ↔ x.Same y := by
      constructor
      · intro yes
        by_contra different
        exact unconfused' ⟨fun same => different same.symm, z', turned', back_iff.1 yes⟩
      · intro same
        exact back_iff.2 (same.symm.turned turned')
    refine ⟨eq_iff_iff.2 (faithful.trans faithful'.symm), ?_, ?_⟩
    · rw [← faithful] at same_iff
      cases e <;> cases n <;> simp at same_iff ⊢
    · intro first second o o' told told'
      cases x with
      | text s => cases first
      | number u =>
        cases y with
        | text t => cases second
        | number v =>
          have exactly : verdict .eq a b m = some true → u.Same v := by
            intro yes
            exact faithful.1 (Option.some.inj (equal.symm.trans yes))
          have order := order?_of_verdict left right exactly told
          have order' := order?_of_verdict left right exactly told'
          exact Option.some.inj (order.symm.trans order')

end

def holding (x y : Scalar) : Machine := (({} : Machine).push (.cell x.value)).push (.cell y.value)

theorem one_lawful_two_and_half :
    ∃ e e' n : Bool, verdict .eq 1 2 (holding (.number (.int 1)) (.number (.float 2.5))) = some e ∧
      verdict .eq 2 1 (holding (.number (.int 1)) (.number (.float 2.5))) = some e' ∧
      verdict .ne 1 2 (holding (.number (.int 1)) (.number (.float 2.5))) = some n ∧
      e = e' ∧ n = !e := by
  have there : Returns (compare .eq (.object 1) (.object 2))
      (holding (.number (.int 1)) (.number (.float 2.5))) := ⟨_, _, rfl⟩
  have back : Returns (compare .eq (.object 2) (.object 1))
      (holding (.number (.int 1)) (.number (.float 2.5))) := ⟨_, _, rfl⟩
  have unconfused : ¬ (Scalar.number (.int 1)).Confused (.number (.float 2.5)) := by
    rintro ⟨-, z, becomes, same⟩
    have truncated : Decimal.truncate? 2.5 = some 2 := by decide +kernel
    rw [Scalar.turned?, truncated] at becomes
    cases becomes
    cases same
  have unconfused' : ¬ (Scalar.number (.float 2.5)).Confused (.number (.int 1)) := by
    rintro ⟨-, z, becomes, same⟩
    have finite : (Number.int 1).toFloat = .ok (Decimal.ofInt 1) := rfl
    rw [Scalar.turned?, finite] at becomes
    cases becomes
    have different : ¬ ((2.5 : Float) == Decimal.ofInt 1) = true := by decide +kernel
    exact different same
  obtain ⟨e, e', n, equal, equal', unequal, -, lawful⟩ :=
    equality_lawful_iff (x := .number (.int 1)) (y := .number (.float 2.5)) rfl rfl there back
  obtain ⟨symmetric, opposite, -⟩ := lawful.2 ⟨unconfused, unconfused'⟩
  exact ⟨e, e', n, equal, equal', unequal, symmetric, opposite⟩

/-- One equals one and a half, is unequal to it and less, but one and a half does not equal one. -/
theorem one_equals_one_and_half :
    verdict .eq 1 2 (holding (.number (.int 1)) (.number (.float 1.5))) = some true ∧
    verdict .ne 1 2 (holding (.number (.int 1)) (.number (.float 1.5))) = some true ∧
    verdict .lt 1 2 (holding (.number (.int 1)) (.number (.float 1.5))) = some true ∧
    verdict .eq 2 1 (holding (.number (.int 1)) (.number (.float 1.5))) = some false := by
  decide +kernel

end Eval
end BlockScript
