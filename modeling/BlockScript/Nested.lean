/-!
Nested lists: what a phrase gives may be nothing, one part, or parts in lists of any depth.
-/

namespace BlockScript

inductive Nested (α : Type) where
  | absent
  | leaf (value : α)
  | list (items : List (Nested α))
deriving Inhabited

namespace Nested

mutual
def flatten : Nested α → List α
  | .absent => []
  | .leaf a => [a]
  | .list items => flattenAll items

def flattenAll : List (Nested α) → List α
  | [] => []
  | x :: rest => flatten x ++ flattenAll rest
end

/-- Nothing leaves the parts as they are; anything else is put behind them, and all is flattened. -/
def gather (parts : List α) : Nested α → List α
  | .absent => parts
  | next => flatten (.list (parts.map leaf ++ [next]))

/-- One step, where nothing stands before the first. -/
def gatherNext (parts : Option (List α)) (next : Nested α) : Option (List α) :=
  some (gather (parts.getD []) next)

theorem flattenAll_append (xs ys : List (Nested α)) :
    flattenAll (xs ++ ys) = flattenAll xs ++ flattenAll ys := by
  induction xs with
  | nil => rfl
  | cons x xs ih => simp [flattenAll, ih]

theorem flattenAll_leaves (parts : List α) : flattenAll (parts.map leaf) = parts := by
  induction parts with
  | nil => rfl
  | cons a parts ih => simp [flattenAll, flatten, ih]

theorem gather_eq (parts : List α) (next : Nested α) : gather parts next = parts ++ next.flatten := by
  cases next <;> simp [gather, flatten, flattenAll, flattenAll_append, flattenAll_leaves]

theorem foldl_gather (parts : List α) (items : List (Nested α)) :
    items.foldl gather parts = parts ++ flattenAll items := by
  induction items generalizing parts with
  | nil => simp [flattenAll]
  | cons x rest ih => simp [ih, gather_eq, flattenAll]

end Nested
end BlockScript
