import BlockScript.Proofs.Substrings

/-!
Finding and replacing parts of texts. The position of a part is that of its first occurrence, and
its occurrences are replaced from the left, one behind the other.
-/

namespace BlockScript

namespace Search

variable {part new text : List Char} {i : Nat}

lemma find?_cons_here (here : part <+: c :: rest) : find? part (c :: rest) = some 0 := by
  rw [find?, if_pos (List.isPrefixOf_iff_prefix.2 here)]

lemma find?_cons_later (other : ¬ part <+: c :: rest) :
    find? part (c :: rest) = (find? part rest).map (· + 1) := by
  rw [find?, if_neg (mt List.isPrefixOf_iff_prefix.1 other)]

lemma of_find? (found : find? part text = some i) :
    part <+: text.drop i ∧ ∀ j < i, ¬ part <+: text.drop j := by
  induction text generalizing i with
  | nil =>
    cases part with
    | nil =>
      cases found
      exact ⟨List.prefix_rfl, fun j before => absurd before (Nat.not_lt_zero j)⟩
    | cons => cases found
  | cons c rest ih =>
    by_cases here : part <+: c :: rest
    · cases (find?_cons_here here).symm.trans found
      exact ⟨here, fun j before => absurd before (Nat.not_lt_zero j)⟩
    · rw [find?_cons_later here, map_eq_some_iff] at found
      obtain ⟨i, later, rfl⟩ := found
      obtain ⟨there, first⟩ := ih later
      refine ⟨there, fun j before => ?_⟩
      cases j with
      | zero => exact here
      | succ j => exact first j (Nat.lt_of_succ_lt_succ before)

lemma find?_eq_none_iff : find? part text = none ↔ ¬ part <:+: text := by
  induction text with
  | nil => cases part <;> simp [find?]
  | cons c rest ih =>
    rw [List.infix_cons_iff, not_or]
    by_cases here : part <+: c :: rest
    · simp [find?_cons_here here, here]
    · rw [find?_cons_later here, Option.map_eq_none_iff, ih]
      exact (and_iff_right here).symm

lemma drop_of_find? (found : find? part text = some i) :
    text.drop i = part ++ text.drop (i + part.length) := by
  rw [← List.drop_drop]
  exact List.prefix_append_drop (of_find? found).1

lemma find?_fits (some_part : part ≠ []) (found : find? part text = some i) :
    0 < part.length ∧ i + part.length ≤ text.length := by
  have size := length_pos_iff.2 some_part
  have there := congrArg List.length (drop_of_find? found)
  grind

lemma replaceFrom_skip (skip : Nat) (text : List Char) :
    replaceFrom part new skip text = replaceAll part new (text.drop skip) := by
  induction text generalizing skip with
  | nil => cases skip <;> rfl
  | cons c rest ih =>
    cases skip with
    | zero => rfl
    | succ skip => exact ih skip

lemma replaceAll_cons_here (some_part : part ≠ []) (here : part <+: c :: rest) :
    replaceAll part new (c :: rest) = new ++ replaceAll part new ((c :: rest).drop part.length) := by
  obtain ⟨d, part, rfl⟩ := List.exists_cons_of_ne_nil some_part
  rw [replaceAll, replaceFrom, if_pos (List.isPrefixOf_iff_prefix.2 here), replaceFrom_skip]
  rfl

lemma replaceAll_cons_later (other : ¬ part <+: c :: rest) :
    replaceAll part new (c :: rest) = c :: replaceAll part new rest := by
  rw [replaceAll, replaceFrom, if_neg (mt List.isPrefixOf_iff_prefix.1 other)]
  rfl

lemma replaceAll_none (none : find? part text = none) : replaceAll part new text = text := by
  rw [find?_eq_none_iff] at none
  induction text with
  | nil => rfl
  | cons c rest ih =>
    rw [List.infix_cons_iff, not_or] at none
    rw [replaceAll_cons_later none.1, ih none.2]

lemma replaceAll_some (some_part : part ≠ []) (found : find? part text = some i) :
    replaceAll part new text =
      text.take i ++ new ++ replaceAll part new (text.drop (i + part.length)) := by
  induction text generalizing i with
  | nil => simp [find?, some_part] at found
  | cons c rest ih =>
    by_cases here : part <+: c :: rest
    · cases (find?_cons_here here).symm.trans found
      rw [replaceAll_cons_here some_part here, Nat.zero_add]
      rfl
    · rw [find?_cons_later here, map_eq_some_iff] at found
      obtain ⟨i, later, rfl⟩ := found
      rw [replaceAll_cons_later here, ih later, Nat.add_right_comm]
      rfl

/-- What holds of a text without occurrences, and of one if it holds behind its first occurrence,
holds of every text. -/
lemma occurrence_induction {P : List Char → Prop} (some_part : part ≠ [])
    (none : ∀ text, find? part text = none → P text)
    (some : ∀ text i, find? part text = some i → P (text.drop (i + part.length)) → P text)
    (text : List Char) : P text := by
  cases found : find? part text with
  | none => exact none text found
  | some i =>
    have fits := find?_fits some_part found
    exact some text i found (occurrence_induction some_part none some _)
termination_by text.length

/-- Each occurrence that is replaced changes the length by the same amount. -/
lemma length_replaceAll (some_part : part ≠ []) (text : List Char) :
    ∃ n, (replaceAll part new text).length + n * part.length = text.length + n * new.length := by
  induction text using occurrence_induction some_part with
  | none text found => exact ⟨0, by rw [replaceAll_none found, Nat.zero_mul, Nat.zero_mul]⟩
  | some text i found ih =>
    have fits := find?_fits some_part found
    obtain ⟨n, later⟩ := ih
    refine ⟨n + 1, ?_⟩
    rw [replaceAll_some some_part found, Nat.succ_mul, Nat.succ_mul]
    simp only [length_append, length_take, length_drop] at later ⊢
    omega

lemma replaceAll_self (some_part : part ≠ []) (text : List Char) :
    replaceAll part part text = text := by
  induction text using occurrence_induction some_part with
  | none text found => exact replaceAll_none found
  | some text i found ih =>
    rw [replaceAll_some some_part found, ih, append_assoc, ← drop_of_find? found,
      List.take_append_drop]

/-- Replacing changes a text exactly if there is something to replace by something else. -/
lemma replaceAll_eq_iff (some_part : part ≠ []) :
    replaceAll part new text = text ↔ ¬ part <:+: text ∨ part = new := by
  rw [← find?_eq_none_iff]
  cases found : find? part text with
  | none => exact iff_of_true (replaceAll_none found) (.inl rfl)
  | some i =>
    constructor
    · intro same
      nth_rewrite 2 [← List.take_append_drop i text] at same
      rw [replaceAll_some some_part found, append_assoc, List.append_cancel_left_eq,
        drop_of_find? found] at same
      obtain ⟨n, later⟩ := @length_replaceAll part new some_part (text.drop (i + part.length))
      have lengths := congrArg List.length same
      rw [length_append, length_append] at lengths
      have times : (n + 1) * new.length = (n + 1) * part.length := by linarith
      exact .inr (List.append_inj same (Nat.eq_of_mul_eq_mul_left n.succ_pos times)).1.symm
    · rintro (⟨⟨⟩⟩ | rfl)
      exact replaceAll_self some_part text

end Search

namespace Standard

open Eval

/-- What a call comes to on values that are given directly or in cells: a new cell with a result. -/
def Holds (r : Routine) (contents : List Value) (result : Value) : Prop :=
  ∀ (m : Machine) args, Forall₂ (m.content · = ·) args contents →
    Library.apply r args m = .ok (.object m.store.size) (m.push (.cell result))

variable {s t : String}

lemma holds_instr (s t : String) : Holds .instr [.text s, .text t] (.int (position s t)) := by
  rintro m _ (_ | @⟨v, _, _, _, string, _ | @⟨w, _, _, _, part, _ | _⟩⟩)
  change instr v w m = _
  rw [instr, bind_ok (unwrap_eq v m), string]
  refine (bind_ok (unwrap_eq w m)).trans ?_
  rw [part]
  rfl

/-- A part that begins at a position from one on is not cut from the wrong end. -/
lemma holds_substr (some_text : s ≠ "") (i n : Nat) :
    Holds .substr [.text s, .int (i + 1 : Nat), .int n]
      (.text (.ofList ((s.toList.drop i).take n))) := by
  rintro m _ (_ | ⟨string, _ | ⟨place, _ | ⟨size, _ | _⟩⟩⟩)
  refine (substr_eq (n := some n) string some_text place size).trans ?_
  have right : taken s.toList (i + 1 : Nat) (some n) = (s.toList.drop i).take n := by
    refine take_drop_congr ?_ ?_ <;> simp only [start, stop, Slice.place] <;> split_ifs <;> omega
  rw [right]

/-- The position of a part is that of its first occurrence: the part stands there, and at no
position before. -/
theorem position_of_first_occurrence {s t : String} (some_part : t ≠ "") :
    ∃ k : Nat, Holds .instr [.text s, .text t] (.int k) ∧
      (k = 0 ↔ ¬ t.toList <:+: s.toList) ∧
      (0 < k → k + t.length ≤ s.length + 1 ∧
        Holds .substr [.text s, .int k, .int t.length] (.text t) ∧
        ∀ j : Nat, 0 < j → j < k → ∃ other, other ≠ t ∧
          Holds .substr [.text s, .int j, .int t.length] (.text other)) := by
  refine ⟨position s t, holds_instr s t, ?_⟩
  rw [← Search.find?_eq_none_iff]
  unfold position
  cases found : Search.find? t.toList s.toList with
  | none => exact ⟨iff_of_true rfl rfl, fun positive => absurd positive (Nat.lt_irrefl 0)⟩
  | some i =>
    obtain ⟨here, first⟩ := Search.of_find? found
    have fits := Search.find?_fits (by simpa using some_part) found
    rw [String.length_toList, String.length_toList] at fits
    have some_text : s ≠ "" := by
      rintro rfl
      rw [String.length_empty] at fits
      omega
    refine ⟨iff_of_false (Nat.succ_ne_zero i) (Option.some_ne_none i), fun _ => ⟨?_, ?_, ?_⟩⟩
    · dsimp only
      omega
    · have cut := holds_substr some_text i t.length
      rwa [← String.length_toList, ← List.prefix_iff_eq_take.1 here, String.ofList_toList] at cut
    · intro j some_place before
      obtain ⟨j, rfl⟩ := Nat.exists_eq_succ_of_ne_zero some_place.ne'
      refine ⟨_, fun same => first j (Nat.lt_of_succ_lt_succ before) ?_,
        holds_substr some_text j t.length⟩
      have whole := congrArg String.toList same
      rw [String.toList_ofList] at whole
      rw [List.prefix_iff_eq_take, String.length_toList, whole]

/-- Of two occurrences that overlap, the first one. -/
theorem banana_position :
    ∃ k : Nat, Holds .instr [.text "banana", .text "ana"] (.int k) ∧ k ≠ 0 ∧
      Holds .substr [.text "banana", .int k, .int 3] (.text "ana") := by
  obtain ⟨k, holds, absent, present⟩ := @position_of_first_occurrence "banana" "ana" (by decide)
  have occurs : k ≠ 0 := fun zero => absent.1 zero (by decide)
  exact ⟨k, holds, occurs, (present (Nat.pos_of_ne_zero occurs)).2.1⟩

/-- What the replacement of a call counts as. One that is absent or left out is empty. -/
def replacement? : List Value → Option String
  | [] | [.null] => some ""
  | [.text b] => some b
  | _ => none

lemma replace_eq {m : Machine} (string : m.content v = .text s) (some_text : s ≠ "")
    (part : m.content w = .text t) (some_part : t ≠ "")
    (counts : replacement? [m.content u] = some b) :
    replace v w u m = .ok (.object m.store.size) (m.push (.cell
      (.text (.ofList (Search.replaceAll t.toList b.toList s.toList))))) := by
  rw [replace, bind_ok (isAbsent_text string some_text), if_neg Bool.false_ne_true,
    bind_ok (isAbsent_text part some_part), if_neg Bool.false_ne_true, bind_ok (unwrap_eq v m),
    string, bind_ok (unwrap_eq w m), part]
  by_cases given : b ≠ "" ∧ m.content u = .text b
  · rw [bind_ok (isAbsent_text given.2 given.1), if_neg Bool.false_ne_true,
      bind_ok (unwrap_eq u m), given.2]
    rfl
  · rw [isAbsent, bind_assoc, bind_ok (unwrap_eq u m)]
    cases same : m.content u with
    | null | text =>
      rw [same] at counts given
      cases counts
      first | rfl | cases not_not.1 fun some => given ⟨some, rfl⟩; rfl
    | _ =>
      rw [same] at counts
      cases counts

lemma holds_replace {given : List Value} (some_text : s ≠ "") (some_part : t ≠ "")
    (counts : replacement? given = some b) :
    Holds .replace (.text s :: .text t :: given)
      (.text (.ofList (Search.replaceAll t.toList b.toList s.toList))) := by
  rintro m _ (_ | @⟨v, _, _, _, string, _ | @⟨w, _, _, _, part, rest⟩⟩)
  have made {u} := @replace_eq _ _ _ _ u b m string some_text part some_part
  rcases rest with _ | @⟨u, _, _, _, rfl, _ | _⟩
  · exact made counts
  · have ordinary : Library.apply .replace [v, w, u] m = replace v w u m := by
      cases u with
      | none => cases counts
      | _ => rfl
    exact ordinary.trans (made counts)
  · simp [replacement?] at counts

/-- Occurrences are replaced from the left: the first one, and then those behind it. What comes of
it is the text itself exactly if there was nothing to replace by something else. -/
theorem replaced_from_the_left {s a b : String} {given : List Value} (some_text : s ≠ "")
    (some_part : a ≠ "") (counts : replacement? given = some b) :
    ∃ (r : String) (k : Nat), Holds .replace (.text s :: .text a :: given) (.text r) ∧
      Holds .instr [.text s, .text a] (.int k) ∧ (k = 0 → r = s) ∧
      (0 < k → ∃ rest r' : String, rest.toList = s.toList.drop (k - 1 + a.length) ∧
        r.toList = s.toList.take (k - 1) ++ b.toList ++ r'.toList ∧
        if rest = "" then r' = ""
        else Holds .replace (.text rest :: .text a :: given) (.text r')) ∧
      (r = s ↔ ¬ a.toList <:+: s.toList ∨ a = b) := by
  have some_chars : a.toList ≠ [] := by simpa using some_part
  refine ⟨_, _, holds_replace some_text some_part counts, holds_instr s a, ?_, ?_, ?_⟩
  · unfold position
    split
    · exact fun zero => absurd zero (Nat.succ_ne_zero _)
    case _ none =>
      rw [Search.replaceAll_none none, String.ofList_toList]
      exact fun _ => rfl
  · unfold position
    split
    case _ i found =>
      let rest := s.toList.drop (i + a.length)
      refine fun _ => ⟨.ofList rest, .ofList (Search.replaceAll a.toList b.toList rest),
        String.toList_ofList, ?_, ?_⟩
      · simp only [String.toList_ofList]
        rw [Search.replaceAll_some some_chars found, String.length_toList]
        rfl
      · split
        case _ empty =>
          rw [String.ofList_eq_empty_iff] at empty
          rw [empty]
          rfl
        case _ some_rest =>
          have later := holds_replace some_rest some_part counts
          rwa [String.toList_ofList] at later
    · exact fun positive => absurd positive (Nat.lt_irrefl 0)
  · rw [← String.toList_inj, String.toList_ofList, Search.replaceAll_eq_iff some_chars,
      String.toList_inj]

/-- What is put in is not searched again, and an occurrence ends where the next may begin. -/
theorem aaa_replaced :
    ∃ r : String, Holds .replace [.text "aaa", .text "aa", .text "ba"] (.text r) ∧ r ≠ "aaa" := by
  obtain ⟨r, k, holds, -, -, -, same⟩ :=
    @replaced_from_the_left "aaa" "aa" "ba" [.text "ba"] (by decide) (by decide) rfl
  exact ⟨r, holds, fun kept => (same.1 kept).elim (absurd (by decide)) (by decide)⟩

end Standard
end BlockScript
