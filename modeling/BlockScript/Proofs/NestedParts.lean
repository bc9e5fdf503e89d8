import BlockScript.Nested
import Mathlib

/-!
Gathering what phrases give, step by step, is one flattening: it keeps each leaf once, from left to
right, in the order of the paths that lead to the leaves.
-/

namespace BlockScript.Nested
open List

lemma foldl_gatherNext (parts : List α) (items : List (Nested α)) :
    items.foldl gatherNext (some parts) = some (items.foldl gather parts) := by
  induction items generalizing parts with
  | nil => rfl
  | cons x rest ih => exact ih _

/-- What stands at the end of a path of indices. -/
def at? : Nested α → List Nat → Option (Nested α)
  | x, [] => some x
  | list items, i :: path => items[i]?.bind (·.at? path)
  | _, _ :: _ => none

mutual
def paths : Nested α → List (List Nat)
  | absent => []
  | leaf _ => [[]]
  | list items => pathsFrom 0 items

def pathsFrom (i : Nat) : List (Nested α) → List (List Nat)
  | [] => []
  | x :: rest => x.paths.map (i :: ·) ++ pathsFrom (i + 1) rest
end

lemma mem_pathsFrom {k : Nat} {path} {items : List (Nested α)} : path ∈ pathsFrom k items ↔
    ∃ i x tail, items[i]? = some x ∧ path = (k + i) :: tail ∧ tail ∈ x.paths := by
  induction items generalizing k with
  | nil => simp [pathsFrom]
  | cons x rest ih =>
    simp only [pathsFrom, mem_append, mem_map, ih]
    constructor
    · rintro (⟨tail, mem, rfl⟩ | ⟨i, y, tail, found, rfl, mem⟩)
      · exact ⟨0, x, tail, rfl, rfl, mem⟩
      · exact ⟨i + 1, y, tail, found, by grind, mem⟩
    · rintro ⟨_ | i, y, tail, found, rfl, mem⟩
      · cases found
        exact .inl ⟨tail, mem, rfl⟩
      · exact .inr ⟨i, y, tail, found, by grind, mem⟩

lemma mem_paths_iff {x : Nested α} : path ∈ x.paths ↔ ∃ a, x.at? path = some (leaf a) := by
  induction path generalizing x with
  | nil => cases x <;> simp [paths, at?, mem_pathsFrom]
  | cons i path ih =>
    cases x <;> simp [paths, at?, mem_pathsFrom]
    grind

mutual
theorem sorted_paths : (x : Nested α) → x.paths.Pairwise (· < ·)
  | absent => .nil
  | leaf _ => pairwise_singleton ..
  | list items => sorted_pathsFrom 0 items

theorem sorted_pathsFrom (k : Nat) : (items : List (Nested α)) → (pathsFrom k items).Pairwise (· < ·)
  | [] => .nil
  | x :: rest => by
    refine pairwise_append.2 ⟨pairwise_map.2 ?_, sorted_pathsFrom (k + 1) rest, ?_⟩
    · simpa using sorted_paths x
    · simp only [mem_map, mem_pathsFrom]
      rintro _ ⟨tail, -, rfl⟩ _ ⟨i, y, tail', -, rfl, -⟩
      exact cons_lt_cons_iff.2 (.inl (by omega))
end

mutual
theorem map_at?_paths : (x : Nested α) → x.paths.map x.at? = x.flatten.map (some ∘ leaf)
  | absent | leaf _ => rfl
  | list items => map_at?_pathsFrom [] items

theorem map_at?_pathsFrom (before : List (Nested α)) : (items : List (Nested α)) →
    (pathsFrom before.length items).map (list (before ++ items)).at? =
      (flattenAll items).map (some ∘ leaf)
  | [] => rfl
  | x :: rest => by
    have here := map_at?_paths x
    have later := map_at?_pathsFrom (before ++ [x]) rest
    rw [pathsFrom, flattenAll, map_append, map_append, ← here, ← later, map_map]
    simp [at?]
end

theorem gathered_leaves_in_order :
    (∀ (first : Nested α) rest, (first :: rest).foldl gatherNext none =
      some (list (first :: rest)).flatten) ∧
    (∀ x : Nested α, ∃ paths : List (List Nat), paths.Pairwise (· < ·) ∧
      (∀ path, path ∈ paths ↔ ∃ a, x.at? path = some (leaf a)) ∧
      paths.map x.at? = x.flatten.map (some ∘ leaf)) ∧
    ∀ x : Nested α, (list (x.flatten.map leaf)).flatten = x.flatten := by
  refine ⟨fun first rest => ?_, fun x => ?_, fun x => flattenAll_leaves _⟩
  · rw [foldl_cons, gatherNext, foldl_gatherNext, foldl_gather, Option.getD_none, gather_eq]
    rfl
  · exact ⟨x.paths, sorted_paths x, fun _ => mem_paths_iff, map_at?_paths x⟩

end BlockScript.Nested
