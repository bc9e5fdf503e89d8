import Mathlib
import BlockScript.Compile.Expression

/-!
Letter case. What is read off the text of operators and numerals is the same whatever case its
letters have: operators have none, and in a numeral a letter marks the exponent or is part of a word
that may be written in any case.
-/

namespace BlockScript

open Char

variable {s : String}

def IgnoresCase {α : Type} (f : String → α) : Prop := ∀ s, f s.toUpper = f s

lemma IgnoresCase.eq (ignores : IgnoresCase f) (same : s.toUpper = t.toUpper) : f s = f t := by
  rw [← ignores s, same, ignores t]

lemma toUpper_cases {P : Char → Char → Prop} (same : ∀ c, c.toUpper = c → P c c)
    (letters : ∀ n < 26, P (ofNat (97 + n)) (ofNat (97 + n)).toUpper) (c : Char) :
    P c c.toUpper := by
  by_cases small : 'a'.val ≤ c.val ∧ c.val ≤ 'z'.val
  · have range : 97 ≤ c.toNat ∧ c.toNat ≤ 122 := by
      simpa [UInt32.le_iff_toNat_le] using small
    have spelled : ofNat (97 + (c.toNat - 97)) = c := by simp_all
    exact spelled ▸ letters (c.toNat - 97) (by omega)
  · have unchanged : c.toUpper = c := by
      rw [toUpper, dif_neg small]
    rw [unchanged]
    exact same c unchanged

lemma toUpper_toUpper (s : String) : s.toUpper.toUpper = s.toUpper := by
  have twice (c : Char) : c.toUpper.toUpper = c.toUpper :=
    toUpper_cases (P := fun _ d => d.toUpper = d) (fun _ unchanged => unchanged) (by decide) c
  apply String.toList_injective
  simp only [String.toUpper, String.toList_map, List.map_map]
  exact map_congr_left fun c _ => twice c

lemma toUpper_eq_iff (plain : mark.toList.all fun c => c.toLower == c && c.toUpper == c) :
    s.toUpper = mark ↔ s = mark := by
  have letter (c : Char) : c.toUpper = c ∨ c.toUpper.toLower ≠ c.toUpper :=
    toUpper_cases (P := fun c d => d = c ∨ d.toLower ≠ d) (fun _ _ => .inl rfl) (by decide) c
  have unchanged (cs : List Char) (fixed) : cs.map toUpper = cs :=
    (map_congr_left fixed).trans (List.map_id cs)
  rw [← String.toList_inj, ← String.toList_inj, String.toUpper, String.toList_map]
  constructor
  · grind
  · grind

namespace Decimal

variable {cs : List Char} (c : Char)

lemma isBlank_toUpper : isBlank c.toUpper = isBlank c :=
  toUpper_cases (P := fun c d => isBlank d = isBlank c) (fun _ _ => rfl) (by decide) c

lemma isDigitOrBar_toUpper : isDigitOrBar c.toUpper = isDigitOrBar c :=
  toUpper_cases (P := fun c d => isDigitOrBar d = isDigitOrBar c) (fun _ _ => rfl) (by decide) c

lemma toUpper_of_isDigitOrBar {c : Char} (digit : isDigitOrBar c = true) : c.toUpper = c :=
  toUpper_cases (P := fun c d => isDigitOrBar c = true → d = c) (fun _ _ _ => rfl) (by decide) c
    digit

lemma strip_toUpper : strip (cs.map toUpper) = (strip cs).map toUpper := by
  have same : (isBlank ∘ toUpper) = isBlank := funext isBlank_toUpper
  simp [strip, List.dropWhile_map, same, ← List.map_reverse]

lemma common_toUpper : Digit.common c.toUpper = (Digit.common c).toUpper := by
  refine toUpper_cases (P := fun c d => Digit.common d = (Digit.common c).toUpper) ?_ (by decide) c
  intro c unchanged
  unfold Digit.common
  split
  · exact unchanged.symm
  · split
    · rename_i n known
      obtain ⟨least, found, rfl⟩ := map_eq_some_iff.1 known
      have range := List.find?_some found
      simp only [and_eq_true, decide_eq_true_eq] at range
      have digits : ∀ n < 10, ofNat (48 + n) = (ofNat (48 + n)).toUpper := by decide
      exact digits (c.toNat - least) (by omega)
    · exact unchanged.symm

lemma signed?_cons (rest : List Char) :
    signed? (c :: rest) = if c = '-' then (true, rest) else if c = '+' then (false, rest)
      else (false, c :: rest) := by
  unfold signed?
  split <;> simp_all

lemma signed?_toUpper :
    signed? (cs.map toUpper) = ((signed? cs).1, (signed? cs).2.map toUpper) := by
  cases cs with
  | nil => rfl
  | cons c rest =>
    have minus : c.toUpper = '-' ↔ c = '-' :=
      toUpper_cases (P := fun c d => d = '-' ↔ c = '-') (fun _ _ => Iff.rfl) (by decide) c
    have plus : c.toUpper = '+' ↔ c = '+' :=
      toUpper_cases (P := fun c d => d = '+' ↔ c = '+') (fun _ _ => Iff.rfl) (by decide) c
    rw [map_cons, signed?_cons, signed?_cons]
    simp only [minus, plus]
    split
    · rfl
    · split <;> rfl

lemma takeWhile_toUpper :
    (cs.map toUpper).takeWhile isDigitOrBar = cs.takeWhile isDigitOrBar := by
  have same : (isDigitOrBar ∘ toUpper) = isDigitOrBar := funext isDigitOrBar_toUpper
  rw [List.takeWhile_map, same]
  refine (map_congr_left fun c mem => ?_).trans (List.map_id _)
  exact toUpper_of_isDigitOrBar (List.mem_takeWhile_imp mem)

lemma dropWhile_toUpper : (cs.map toUpper).dropWhile isDigitOrBar =
      (cs.dropWhile isDigitOrBar).map toUpper := by
  have same : (isDigitOrBar ∘ toUpper) = isDigitOrBar := funext isDigitOrBar_toUpper
  rw [List.dropWhile_map, same]

lemma forall_of_splitOn {P : Char → Prop} (dividing : P bar)
    (groups : ∀ g ∈ cs.splitOn bar, ∀ c ∈ g, P c) : ∀ c ∈ cs, P c := by
  induction cs with
  | nil => simp
  | cons c cs ih =>
    rw [List.splitOn, List.splitOnP_cons_eq_if_modifyHead] at groups
    by_cases divides : c = bar
    · subst divides
      simp only [beq_self_eq_true, ↓reduceIte, forall_mem_cons] at groups
      exact forall_mem_cons.2 ⟨dividing, ih groups.2⟩
    · rw [if_neg (by simpa using divides)] at groups
      change ∀ g ∈ List.modifyHead (List.cons c) (cs.splitOn bar), _ at groups
      cases split : cs.splitOn bar with
      | nil => exact absurd split (List.splitOnP_ne_nil _ _)
      | cons g gs =>
        rw [split, List.modifyHead_cons, forall_mem_cons, forall_mem_cons] at groups
        grind

lemma isDigitOrBar_of_digitGroups? (read : digitGroups? cs = some digits) :
    ∀ c ∈ cs, isDigitOrBar c = true := by
  cases cs with
  | nil => simp
  | cons c cs =>
    simp only [digitGroups?] at read
    split at read
    · rename_i groups
      simp only [all_eq_true, and_eq_true] at groups
      have bar : isDigitOrBar '_' = true := by decide
      refine forall_of_splitOn bar fun g mem c inside => ?_
      simp [isDigitOrBar, (groups g mem).2 c inside]
    · cases read

lemma map_toUpper_of_digits (digits : ∀ c ∈ cs, isDigitOrBar c = true) : cs.map toUpper = cs :=
  (map_congr_left fun c mem => toUpper_of_isDigitOrBar (digits c mem)).trans (List.map_id cs)

lemma digitGroups?_toUpper : digitGroups? (cs.map toUpper) = digitGroups? cs := by
  by_cases digits : ∀ c ∈ cs, isDigitOrBar c = true
  · rw [map_toUpper_of_digits digits]
  · have stuck : digitGroups? cs = none := by
      rw [Option.eq_none_iff_forall_ne_some]
      intro ds read
      exact digits (isDigitOrBar_of_digitGroups? read)
    have stuck' : digitGroups? (cs.map toUpper) = none := by
      rw [Option.eq_none_iff_forall_ne_some]
      intro ds read
      apply digits
      intro c mem
      rw [← isDigitOrBar_toUpper]
      exact isDigitOrBar_of_digitGroups? read _ (mem_map_of_mem mem)
    rw [stuck, stuck']

lemma exponent?_toUpper : exponent? (cs.map toUpper) = exponent? cs := by
  cases cs with
  | nil => rfl
  | cons c rest =>
    have marks : (c.toUpper == 'e' || c.toUpper == 'E') = (c == 'e' || c == 'E') :=
      toUpper_cases (P := fun c d => (d == 'e' || d == 'E') = (c == 'e' || c == 'E'))
        (fun _ _ => rfl) (by decide) c
    simp [exponent?, marks, signed?_toUpper, digitGroups?_toUpper]

lemma unsigned?_toUpper : unsigned? (cs.map toUpper) = unsigned? cs := by
  simp only [unsigned?, takeWhile_toUpper, dropWhile_toUpper]
  generalize cs.dropWhile isDigitOrBar = rest
  cases rest with
  | nil => rfl
  | cons c more =>
    have point : c.toUpper = '.' ↔ c = '.' :=
      toUpper_cases (P := fun c d => d = '.' ↔ c = '.') (fun _ _ => Iff.rfl) (by decide) c
    by_cases is : c = '.'
    · subst is
      simp [takeWhile_toUpper, dropWhile_toUpper, exponent?_toUpper]
    · split
      · grind
      · split
        · grind
        · simp [← map_cons, exponent?_toUpper]

lemma read?_ignoresCase : IgnoresCase read? := by
  intro s
  have words (cs) : (String.ofList (cs.map toUpper)).toLower = (String.ofList cs).toLower := by
    have same (c : Char) : c.toUpper.toLower = c.toLower :=
      toUpper_cases (P := fun c d => d.toLower = c.toLower) (fun _ _ => rfl) (by decide) c
    apply String.toList_injective
    simp only [String.toLower, String.toList_map, String.toList_ofList, List.map_map]
    exact map_congr_left fun c _ => same c
  have common (cs : List Char) : (cs.map toUpper).map Digit.common =
      (cs.map Digit.common).map toUpper := by
    simp only [List.map_map]
    exact map_congr_left fun c _ => common_toUpper c
  simp only [read?, String.toUpper, String.toList_map, strip_toUpper, common, signed?_toUpper,
    words, unsigned?_toUpper]

end Decimal

namespace Compile

lemma numeral_ignoresCase : IgnoresCase numeral := by
  intro s
  rw [numeral, numeral, Decimal.read?_ignoresCase]

def marks : List String := ["=", "!=", "<>", ">", ">=", "<", "<=", "+", "-", "*", "/"]

lemma toUpper_mark (mem : mark ∈ marks) : s.toUpper = mark ↔ s = mark := by
  apply toUpper_eq_iff
  revert mark
  decide

lemma operatorOf_unknown (unknown : s ∉ marks) : operatorOf s = .error .unknownOperator := by
  unfold operatorOf
  split <;> simp_all [marks]

lemma operatorOf_ignoresCase : IgnoresCase operatorOf := by
  intro s
  by_cases known : s ∈ marks
  · rw [(toUpper_mark known).2 rfl]
  · have unknown : s.toUpper ∉ marks := by
      intro mem
      exact known ((toUpper_mark mem).1 rfl ▸ mem)
    rw [operatorOf_unknown known, operatorOf_unknown unknown]

lemma minus_ignoresCase : IgnoresCase (· == "-") := by
  intro s
  rw [eq_iff_iff, beq_iff_eq, beq_iff_eq]
  exact toUpper_mark (by decide)

end Compile
end BlockScript
