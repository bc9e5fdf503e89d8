import BlockScript.Proofs.Binding
import BlockScript.Proofs.Core.Execution

/-!
Variables that begin with the result of a built-in routine. A variable is read by a call of what it
stands for and is assigned through it, which takes a cell, and not every result is in one.
-/

namespace BlockScript

open Eval

namespace Run

open Machine

variable {place : Place} {m : Machine}

/-- A variable gives its value when it is read, and takes the contents of other variables. -/
def Place.Serves (place : Place) (m : Machine) (x : String) (w : Value) : Prop :=
  (∀ steps, evaluate place (steps + 3) (.call (.name x) []) m = .ok w m) ∧
  ∀ steps y b given, place.Sees m y (.object b) → m.store.get? b = some (.cell given) →
    ∃ m', execute place (steps + 2) (.update (.name x) (.name y)) m = .ok .next m' ∧
      place.Sees m' x w ∧ m'.content w = given

end Run

namespace Library

open Standard

/-- Whatever an action returns is of a kind. -/
def Lands (P : Machine → Value → Prop) (x : Eval Value) : Prop :=
  ∀ m w m', x m = .ok w m' → P m' w

namespace Lands

variable {P : Machine → Value → Prop}

lemma pure (is : ∀ m, P m v) : Lands P (pure v) := by
  rintro m _ _ ⟨⟩
  exact is m

lemma bind {f : α → Eval Value} (next : ∀ v, Lands P (f v)) : Lands P (x >>= f) := by
  intro m w m' ran
  cases first : x m with
  | ok v m₁ =>
    rw [bind_ok first] at ran
    exact next v m₁ w m' ran
  | error stop m₁ =>
    rw [bind_error first] at ran
    cases ran

end Lands

/-- Calls that put their result into a cell, unless an argument is absent. -/
def wrapping (u v : Value) (a : Address) : List (Routine × List Value) :=
  [(.chr, [u]), (.instr, [u, v]), (.lower, [u]), (.upper, [u]), (.toChar, [u]), (.toNumber, [u]),
    (.trim, [u]), (.trimLeft, [u]), (.trimRight, [u]), (.member .tableFirst, [.object a]),
    (.member .cursorFound, [.object a]), (.member .cursorNotFound, [.object a])]

/-- Calls that return a number or a truth value itself. -/
def bare (u : Value) (a : Address) : List (Routine × List Value) :=
  [(.length, [u]), (.member .tableCount, [.object a]), (.member .tableLast, [.object a]),
    (.member .cursorIsOpen, [.object a])]

end Library
end BlockScript
