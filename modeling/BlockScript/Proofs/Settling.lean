import Mathlib
import BlockScript.Run

/-!
What a computation on a machine comes to. A computation settles if it gives a result as promised; it
may stop early only because its steps are used up, and not if they are enough.
-/

namespace BlockScript.Eval

variable {x : Eval α}

def Settles (enough : Prop) (result : EStateM.Result Stop Machine α)
    (promised : α → Machine → Prop) : Prop :=
  match result with
  | .ok a m => promised a m
  | .error .exhausted _ => ¬ enough
  | .error (.failed _) _ => False

namespace Settles

lemma mono (settles : Settles enough result P) (weaker : ∀ a m, P a m → Q a m) :
    Settles enough result Q := by
  rcases result with ⟨a, m⟩ | ⟨cause | _, m⟩
  · exact weaker a m settles
  · exact settles
  · exact settles

lemma fewer (settles : Settles enough result P) (more : less → enough) : Settles less result P := by
  rcases result with ⟨a, m⟩ | ⟨cause | _, m⟩
  · exact settles
  · exact settles
  · exact fun granted => settles (more granted)

lemma ends (settles : Settles enough result P) (granted : enough) :
    ∃ a m, result = .ok a m ∧ P a m := by
  rcases result with ⟨a, m⟩ | ⟨cause | _, m⟩
  · exact ⟨a, m, rfl, settles⟩
  · exact settles.elim
  · exact absurd granted settles

lemma of_ok (ok : result = .ok a m) (due : P a m) : Settles enough result P := by
  rw [ok]
  exact due

lemma exhausted (few : ¬ enough) : Settles enough ((throw .exhausted : Eval α) m) P := few

lemma short {n steps : Nat} (granted : enough → n ≤ steps) (few : steps < n) :
    Settles enough ((throw .exhausted : Eval α) m) P :=
  fun given => Nat.not_le.2 few (granted given)

lemma bind (first : Settles enough (x m) P) (next : ∀ a m', P a m' → Settles enough (f a m') Q) :
    Settles enough ((x >>= f) m) Q := by
  change Settles enough (EStateM.bind x f m) Q
  rw [EStateM.bind]
  rcases result : x m with ⟨a, m'⟩ | ⟨cause | _, m'⟩ <;> rw [result] at first
  · exact next a m' first
  · exact first
  · exact first

end Settles

lemma bind_ok (ok : x m = .ok a m') : (x >>= f) m = f a m' := by
  change EStateM.bind x f m = _
  rw [EStateM.bind, ok]

lemma bind_error (failed : x m = .error stop m') : (x >>= f) m = .error stop m' := by
  change EStateM.bind x f m = _
  rw [EStateM.bind, failed]

lemma get_eq (m) : (get : Eval Machine) m = .ok m m := rfl

def after (x : Eval α) (m : Machine) : Machine :=
  match x m with
  | .ok _ m' => m'
  | .error _ m' => m'

lemma after_bind (ok : x m = .ok r m') : (x >>= f).after m = (f r).after m' := by
  rw [after, bind_ok ok, after]

lemma ok_of_bind (ok : (x >>= f) m = .ok b m') : ∃ a m1, x m = .ok a m1 ∧ f a m1 = .ok b m' := by
  change EStateM.bind x f m = _ at ok
  rw [EStateM.bind] at ok
  split at ok
  case _ a m1 first => exact ⟨a, m1, first, ok⟩
  case _ => cases ok

end BlockScript.Eval

lemma BlockScript.Run.globalName_eq (bound : m.globals.get? name = some v) :
    globalName name m = .ok v m := by
  rw [globalName, Eval.bind_ok (Eval.get_eq m), bound]
  rfl

lemma BlockScript.Run.lookUp_outside (outside : place.package = none) :
    lookUp place name m = frameName name .unsetLocal m.store.size place.frame m := by
  rw [lookUp, Eval.bind_ok (Eval.get_eq m), outside]
