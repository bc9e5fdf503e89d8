import BlockScript.Proofs.Layout
import BlockScript.Proofs.Placeholders
import BlockScript.Proofs.QuotedTexts

/-!
Where tokens stand. A scan without faults cuts a text into tokens and blanks: each token is the
part of the text between its offsets, they come one behind the other, and between them there are
blanks only.
-/

namespace BlockScript

namespace Lexeme

lemma longest?_mem (found : longest? text = some (kind, n)) :
    ∃ length?, (kind, length?) ∈ classes ∧ length? text = some n := by
  unfold longest? at found
  generalize classes = known at found ⊢
  -- the best length found so far is one of the classes', whichever have been tried
  induction known using List.reverseRecOn generalizing kind n with
  | nil => cases found
  | append_singleton earlier last ih =>
    obtain ⟨k, length?⟩ := last
    rw [List.foldl_concat] at found
    dsimp only at found
    split at found
    · obtain ⟨f, mem, is⟩ := ih found
      exact ⟨f, mem_append_left _ mem, is⟩
    · cases found
      exact ⟨length?, by simp, by assumption⟩
    · split at found
      · cases found
        exact ⟨length?, by simp, by assumption⟩
      · obtain ⟨f, mem, is⟩ := ih found
        exact ⟨f, mem_append_left _ mem, is⟩

lemma longest?_blank (found : longest? text = some (.blank, n)) :
    1 ≤ n ∧ ∀ c ∈ text.take n, isBlank c = true := by
  obtain ⟨length?, mem, is⟩ := longest?_mem found
  obtain rfl : length? = blanks? := by simpa [classes] using mem
  unfold blanks? at is
  dsimp only at is
  split at is
  · cases is
  · cases is
    refine ⟨by omega, fun c mem => ?_⟩
    rw [← List.prefix_iff_eq_take.1 (List.takeWhile_prefix _)] at mem
    exact List.mem_takeWhile_imp mem

lemma isBlank_toUpper (c : Char) : isBlank c.toUpper = isBlank c :=
  toUpper_cases (P := fun c d => isBlank d = isBlank c) (fun _ _ => rfl) (by decide) c

end Lexeme

namespace Scan

open Embedded (IsPiece)

/-- How a text from a place on is cut: into tokens that are parts of it, in order, and blanks. -/
structure Cuts (source : String) (place : Nat) (tokens : List Token) : Prop where
  piece : ∀ t ∈ tokens, IsPiece source t
  behind : ∀ t ∈ tokens, place ≤ t.start
  position : ∀ t ∈ tokens, t.position = (source.toList.take t.start).foldl Position.after {}
  ordered : tokens.Pairwise fun t u => t.stop < u.start
  blank : ∀ i c, place ≤ i → source.toList[i]? = some c →
    (∀ t ∈ tokens, ¬ (t.start ≤ i ∧ i ≤ t.stop)) → Lexeme.isBlank c = true

section

variable (split : source.toList = before ++ chunk ++ after)
  (cuts : Cuts source (before ++ chunk).length ks)
include split cuts

lemma Cuts.pass (blanks : ∀ c ∈ chunk, Lexeme.isBlank c = true) :
    Cuts source before.length ks := by
  have longer : before.length ≤ (before ++ chunk).length := by simp
  refine { cuts with behind := fun t mem => Nat.le_trans longer (cuts.behind t mem), blank := ?_ }
  intro i c near found free
  by_cases past : (before ++ chunk).length ≤ i
  · exact cuts.blank i c past found free
  · rw [split, List.getElem?_append_left (by omega), List.getElem?_append_right near] at found
    exact blanks c (List.mem_of_getElem? found)

lemma Cuts.cons (long : chunk ≠ []) (kind : Terminal) :
    Cuts source before.length (⟨kind, String.ofList chunk, before.foldl Position.after {},
      before.length, before.length + chunk.length - 1⟩ :: ks) := by
  have some_char := length_pos_iff.2 long
  have whole := congrArg List.length split
  have next := cuts.behind
  rw [length_append] at next
  rw [length_append, length_append] at whole
  constructor
  · refine forall_mem_cons.2 ⟨⟨?_, ?_, ?_⟩, cuts.piece⟩ <;> dsimp only
    · omega
    · omega
    · rw [String.toList_ofList, split, append_assoc, List.drop_left, List.take_left']
      omega
  · exact forall_mem_cons.2 ⟨Nat.le_refl _, fun t mem => by have := next t mem; omega⟩
  · refine forall_mem_cons.2 ⟨?_, cuts.position⟩
    rw [split, append_assoc, List.take_left]
  · exact pairwise_cons.2 ⟨fun t mem => by have := next t mem; dsimp only; omega, cuts.ordered⟩
  · intro i c near found free
    obtain ⟨here, free⟩ := forall_mem_cons.1 free
    refine cuts.blank i c ?_ found free
    rw [length_append]
    dsimp only at here
    omega

end

lemma cuts_scanFrom (split : source.toList = before ++ rest)
    (clean : (scanFrom rest before.length (before.foldl Position.after {})).faults = []) :
    Cuts source before.length
      (scanFrom rest before.length (before.foldl Position.after {})).tokens := by
  induction size : rest.length using Nat.strongRecOn generalizing before rest with
  | ind n ih =>
    by_cases more : rest = []
    · subst more
      rw [scanFrom]
      refine ⟨by simp, by simp, by simp, .nil, fun i c past found => ?_⟩
      rw [split, append_nil, List.getElem?_eq_none past] at found
      cases found
    have forward : 1 ≤ stride rest := Nat.le_max_left ..
    have some_left := length_pos_iff.2 more
    have whole : source.toList = before ++ rest.take (stride rest) ++ rest.drop (stride rest) := by
      rw [append_assoc, List.take_append_drop, split]
    rw [scanFrom_eq more] at clean ⊢
    rw [← length_append, ← List.foldl_append] at clean ⊢
    obtain ⟨known, later⟩ := List.append_eq_nil_iff.1 clean
    have cuts := ih _ (by rw [length_drop]; omega) whole later rfl
    cases found : Lexeme.longest? (rest.map Char.toUpper) with
    | none => simp [found] at known
    | some best =>
      obtain ⟨kind, width⟩ := best
      dsimp only [token?]
      rw [found]
      cases named : kindOf kind ((rest.take (stride rest)).map Char.toUpper) with
      | some terminal =>
        simp only [Option.bind_eq_bind, bind_some, named]
        exact cuts.cons whole (mt List.take_eq_nil_iff.1 (by simp [more]; omega)) terminal
      | none =>
        simp only [Option.bind_eq_bind, bind_some, named]
        refine cuts.pass whole ?_
        cases kind with
        | token | word => cases named
        | blank =>
          obtain ⟨wide, blanks⟩ := Lexeme.longest?_blank found
          have same : stride rest = width := by
            rw [stride, found]
            exact Nat.max_eq_right wide
          rw [same]
          intro c mem
          rw [← Lexeme.isBlank_toUpper]
          exact blanks _ (by rw [← List.map_take]; exact mem_map_of_mem mem)

lemma Cuts.strung (cuts : Cuts source place ks) (part : us.Sublist ks) :
    Embedded.Strung source us :=
  ⟨cuts.ordered.sublist part, fun k mem => cuts.piece k (part.subset mem)⟩

lemma position_after (text : List Char) : text.foldl Position.after {} =
    ⟨text.count '\n' + 1, (text.reverse.takeWhile (· != '\n')).length⟩ := by
  induction text using List.reverseRecOn with
  | nil => rfl
  | append_singleton text c ih =>
    rw [List.foldl_concat, ih, Position.after, List.reverse_concat]
    by_cases feed : c = '\n'
    · simp [feed]
    · simp [feed]

end Scan

namespace Script

lemma cuts_scan {text : String} (scanned : tokens text = .ok found) :
    Scan.Cuts text 0 found.tokens := by
  obtain ⟨rfl, clean⟩ := tokens_eq_scan scanned
  have whole : text.toList = [] ++ text.toList := rfl
  exact Scan.cuts_scanFrom whole clean

/-- Tokens address the text: they are parts of it in order, between them there are blanks only, and
each has the line and the column of its start. A phrase over some of them spans the text from the
first character of its first token to the last of its last. -/
theorem tokens_address_text {text : String} {found : Scan} (scanned : tokens text = .ok found) :
    (∀ k ∈ found.tokens, k.start ≤ k.stop ∧ k.stop < text.length ∧
      k.text.toList = (text.toList.drop k.start).take (k.stop + 1 - k.start)) ∧
    (found.tokens.Pairwise fun k next => k.stop < next.start) ∧
    (∀ i c, text.toList[i]? = some c → (∀ k ∈ found.tokens, ¬ (k.start ≤ i ∧ i ≤ k.stop)) →
      c ∈ [' ', '\t', '\r', '\n']) ∧
    (∀ k ∈ found.tokens, k.position = ⟨(text.toList.take k.start).count '\n' + 1,
      ((text.toList.take k.start).reverse.takeWhile (· != '\n')).length⟩) ∧
    ∀ (t : Tree Token) first last, t.leaves.Sublist found.tokens →
      t.firstToken? = some first → t.lastToken? = some last →
      ∃ before after, text.toList = before ++ (Embedded.spannedText text t).toList ++ after ∧
        before.length = first.start ∧
        before.length + (Embedded.spannedText text t).toList.length = last.stop + 1 := by
  have cuts := cuts_scan scanned
  refine ⟨fun k mem => ?_, cuts.ordered, fun i c here free => ?_, fun k mem => ?_, ?_⟩
  · obtain ⟨forward, inside, same⟩ := cuts.piece k mem
    exact ⟨forward, String.length_toList ▸ inside, same⟩
  · have blank := cuts.blank i c (Nat.zero_le i) here free
    simpa [Lexeme.isBlank, Lexeme.isLineEnd, or_assoc] using blank
  · rw [cuts.position k mem, Scan.position_after]
  · intro t first last part
    exact Embedded.spannedText_part (cuts.strung part)

def assigning : String := "Begin\n a := 1; -- b\nEnd;"

theorem assigning_addressed : ∃ found, tokens assigning = .ok found ∧
    (found.tokens.map fun k => (k.text, k.start)) =
      [("Begin", 0), ("a", 7), (":=", 9), ("1", 12), (";", 13), ("-- b\n", 15), ("End", 20),
        (";", 23)] ∧
    found.tokens.Pairwise fun k next => k.stop < next.start := by
  have scanned := @tokens_of_clean assigning (by decide +kernel) (by decide +kernel)
  exact ⟨_, scanned, by decide +kernel, (tokens_address_text scanned).2.1⟩

end Script
end BlockScript
