import BlockScript.Proofs.Binding
import BlockScript.Proofs.Core.Evaluation

/-!
Parts of texts. Where a part would end is counted from the start of the text or from its end, by the
sign of what position and length add up to, and not by the sign of the position.
-/

namespace BlockScript.Standard

open Eval

/-- Where a part begins in a text of some length. Positions count from one, and negative ones from
the end. -/
def first (size : Nat) (pos : Int) : Int := if pos < 0 then size + pos + 1 else max pos 1

def last (size : Nat) (pos : Int) : Option Int → Int
  | none => size
  | some n => min size (first size pos + n - 1)

/-- The part of a text from a position on, up to a length if one is given. -/
def excerpt (cs : List Char) (pos : Int) (n : Option Int) : List Char :=
  if first cs.length pos < 1 ∨ cs.length < first cs.length pos ∨ n.any (· < 1) then []
  else (cs.drop (first cs.length pos - 1).toNat).take
    (last cs.length pos n - (first cs.length pos - 1)).toNat

/-- The end of the part is counted from the wrong end of the text, or its start lies before it. -/
def Slips (size : Nat) (pos : Int) : Option Int → Prop
  | none => pos < -size
  | some n =>
    if 0 ≤ pos then max pos 1 - 1 + n < 0 ∧ -size < n
    else if -size ≤ pos then 0 ≤ pos + n ∧ pos + n < size
    else -size < pos + n ∧ pos + n ≠ 0

def start (pos : Int) : Int := if pos < 0 then pos else max pos 1 - 1

def stop (size : Nat) (pos : Int) : Option Int → Nat
  | none => size
  | some n => Slice.place size (start pos + n)

/-- The part that is taken. -/
def taken (cs : List Char) (pos : Int) (n : Option Int) : List Char :=
  (cs.drop (Slice.place cs.length (start pos))).take
    (stop cs.length pos n - Slice.place cs.length (start pos))

lemma take_drop_congr {cs : List Char} {i j k l : Nat}
    (same : min k (cs.length - i) = min l (cs.length - j))
    (start : min k (cs.length - i) = 0 ∨ i = j) :
    (cs.drop i).take k = (cs.drop j).take l := by
  rcases start with none | rfl
  · have empty {i k : Nat} (none : min k (cs.length - i) = 0) : (cs.drop i).take k = [] :=
      List.eq_nil_of_length_eq_zero (by rwa [List.length_take, List.length_drop])
    rw [empty none, empty (same.symm.trans none)]
  · simp_all

/-- A text is cut as it should be exactly if its ends are counted right. Otherwise already the
lengths differ. -/
lemma taken_eq_iff (some_text : cs ≠ []) (pos : Int) (n : Option Int) :
    taken cs pos n = excerpt cs pos n ↔ ¬ Slips cs.length pos n := by
  have size := List.length_pos_iff.2 some_text
  by_cases blank : first cs.length pos < 1 ∨ cs.length < first cs.length pos ∨ n.any (· < 1)
  · rw [excerpt, if_pos blank, ← List.length_eq_zero_iff, taken, List.length_take, List.length_drop]
    cases n <;> simp only [Slips, Slice.place, start, stop, first, Option.any, decide_eq_true_eq,
      Bool.false_eq_true, or_false] at blank ⊢ <;> split_ifs at blank ⊢ <;> omega
  rw [excerpt, if_neg blank]
  constructor
  · intro same
    replace same := congrArg List.length same
    rw [taken] at same
    simp only [List.length_take, List.length_drop] at same
    cases n <;> simp only [Slips, Slice.place, start, stop, first, last, Option.any,
      decide_eq_true_eq] at blank same ⊢ <;> split_ifs at blank same ⊢ <;> omega
  · intro right
    apply take_drop_congr <;> cases n <;> simp only [Slips, Slice.place, start, stop, first, last,
      Option.any, decide_eq_true_eq] at blank right ⊢ <;> split_ifs at blank right ⊢ <;> omega

section

variable {m : Machine}

lemma isAbsent_text (string : m.content v = .text s) (some_text : s ≠ "") :
    isAbsent v m = .ok false m := by
  rw [isAbsent, bind_ok (unwrap_eq v m), string]
  exact congrArg (EStateM.Result.ok · m) (by simpa using some_text)

lemma part_eq (s : String) (pos : Int) (n : Option Int) :
    part (.text s) (n.elim .none .int) (.int (start pos)) m =
      .ok (.object m.store.size) (m.push (.cell (.text (.ofList (taken s.toList pos n))))) := by
  cases n with
  | none =>
    have whole : taken s.toList pos none = Slice.since s.toList (start pos) := by
      rw [taken, Slice.since, stop, List.take_of_length_le (by simp)]
    rw [whole]
    rfl
  | some n => rfl

lemma substr_eq (string : m.content v = .text s) (some_text : s ≠ "")
    (place : m.content w = .int pos) (size : m.content u = n.elim .none .int) :
    substr v w u m =
      .ok (.object m.store.size) (m.push (.cell (.text (.ofList (taken s.toList pos n))))) := by
  have counted (p) (same : start pos = if 0 < p then p - 1 else p) : (do
      let p ← if ← holds .gt (.int p) (.int 0) then sub (.int p) (.int 1) else pure (.int p)
      part (.text s) (n.elim .none .int) p) m =
        .ok (.object m.store.size) (m.push (.cell (.text (.ofList (taken s.toList pos n))))) := by
    rw [← part_eq, same, bind_ok (Core.holds_ints ..)]
    by_cases positive : 0 < p
    · rw [Core.relates, if_pos (by simpa using positive), if_pos positive]
      rfl
    · rw [Core.relates, if_neg (by simpa using positive), if_neg positive]
      rfl
  rw [substr, bind_ok (isAbsent_text string some_text), if_neg Bool.false_ne_true,
    bind_ok (isAbsent_int place), if_neg Bool.false_ne_true, bind_ok (unwrap_eq v m), string,
    bind_ok (unwrap_eq w m), place, bind_ok (unwrap_eq u m), size, bind_ok (Core.holds_ints ..)]
  by_cases zero : pos = 0
  · subst zero
    exact counted 1 rfl
  · rw [Core.relates, if_neg (by simpa using zero)]
    refine counted pos ?_
    unfold start
    split_ifs <;> omega

end

/-- A part of a text is the one that position and length ask for, except where its end is counted
from the wrong end of the text or its start lies before the text. -/
theorem substr_excerpt_iff {m : Machine} {v w : Value} {length : List Value} {s : String}
    {pos : Int} {n : Option Int} (string : m.content v = .text s) (some_text : s ≠ "")
    (place : m.content w = .int pos)
    (size : List.Forall₂ (fun u k => m.content u = .int k) length n.toList) :
    ∃ part, Library.apply .substr (v :: w :: length) m =
        .ok (.object m.store.size) (m.push (.cell (.text part))) ∧
      (part.toList = excerpt s.toList pos n ↔ ¬ Slips s.length pos n) := by
  have cut {u} (size : m.content u = n.elim .none .int) := substr_eq string some_text place size
  refine ⟨.ofList (taken s.toList pos n), ?_, ?_⟩
  · cases n with
    | none =>
      cases size
      exact cut rfl
    | some k =>
      cases size with
      | cons size rest =>
        cases rest
        exact cut size
  · rw [String.toList_ofList, taken_eq_iff (by simpa using some_text), String.length_toList]

/-- A negative position inside the text, with a length that does not reach its end. -/
theorem world_from_end :
    ∃ part, Library.apply .substr [.text "world", .int (-3), .int 2] {} =
        .ok (.object 1) (Machine.push {} (.cell (.text part))) ∧ part.toList = "rl".toList := by
  obtain ⟨part, cut, right⟩ := @substr_excerpt_iff {} (.text "world") (.int (-3)) [.int 2] _ _
    (some 2) rfl (by decide) rfl (.cons rfl .nil)
  exact ⟨part, cut, right.2 (by unfold Slips; decide)⟩

/-- A negative length cuts off characters at the end. -/
theorem hello_cut_short :
    Library.apply .substr [.text "hello", .int 1, .int (-1)] {} =
        .ok (.object 1) (Machine.push {} (.cell (.text "hell"))) ∧
      excerpt "hello".toList 1 (some (-1)) = [] := by
  exact ⟨rfl, by decide⟩

end BlockScript.Standard
