import BlockScript.Compile
import BlockScript.Proofs.LetterCase

/-!
Lexemes in a text. A scan goes over a text from lexeme to lexeme. A quoted text is the only lexeme
that begins with a quote, and writing and reading such texts undo each other.
-/

namespace BlockScript

namespace Lexeme

lemma longest?_quote (rest : Ahead) :
    longest? ('\'' :: rest) = (closing? rest).map fun n => (.token .CHAR_STRING, n + 1) := by
  have quoted : quoted? ('\'' :: rest) = (closing? rest).map (· + 1) := rfl
  cases found : closing? rest <;>
  · rw [found] at quoted
    simp only [longest?, classes, List.foldl_append, List.foldl_cons, quoted]
    rfl

end Lexeme

namespace Scan

/-- How far a scan goes at a place: over the longest lexeme there, or behind a fault. -/
def stride (text : List Char) : Nat :=
  let capitals := text.map Char.toUpper
  max 1 (((Lexeme.longest? capitals).map (·.2)).getD (Lexeme.skipped capitals))

def token? (text : List Char) (offset : Nat) (position : Position) : Option Token := do
  let (kind, _) ← Lexeme.longest? (text.map Char.toUpper)
  let piece := text.take (stride text)
  let terminal ← kindOf kind (piece.map Char.toUpper)
  return { kind := terminal, text := String.ofList piece, position, start := offset,
           stop := offset + piece.length - 1 }

/-- A scan of a text comes to what is left of it at a place. -/
inductive Reaches (text : List Char) : List Char → Prop where
  | start : Reaches text text
  | step (reached : Reaches text rest) (more : rest ≠ []) :
      Reaches text (rest.drop (stride rest))

lemma scanFrom_eq (more : text ≠ []) : scanFrom text offset position =
    let later := scanFrom (text.drop (stride text)) (offset + (text.take (stride text)).length)
      ((text.take (stride text)).foldl Position.after position)
    ⟨(token? text offset position).toList ++ later.tokens,
      (if (Lexeme.longest? (text.map Char.toUpper)).isNone then [position] else []) ++ later.faults,
      later.finish⟩ := by
  cases text with
  | nil => exact absurd rfl more
  | cons c rest =>
    have width : stride (c :: rest) = ((Lexeme.longest? ((c :: rest).map Char.toUpper)).map
        (·.2)).getD (Lexeme.skipped ((c :: rest).map Char.toUpper)) - 1 + 1 := by
      rw [stride]
      omega
    rw [scanFrom, token?, width, List.take_succ_cons, List.drop_succ_cons]
    cases found : Lexeme.longest? ((c :: rest).map Char.toUpper) with
    | none => rfl
    | some best =>
      dsimp only [Option.bind_eq_bind, bind_some]
      cases kindOf best.1 _ <;> rfl

lemma tokens_scanFrom (more : text ≠ []) :
    (scanFrom text offset position).tokens = (token? text offset position).toList ++
      (scanFrom (text.drop (stride text)) (offset + (text.take (stride text)).length)
        ((text.take (stride text)).foldl Position.after position)).tokens := by
  rw [scanFrom_eq more]

lemma Reaches.tokens (reached : Reaches text rest) :
    ∃ before earlier position, text = before ++ rest ∧ (scanFrom text 0 {}).tokens =
      earlier ++ (scanFrom rest before.length position).tokens := by
  induction reached with
  | start => exact ⟨[], [], {}, rfl, rfl⟩
  | @step rest _ more ih =>
    obtain ⟨before, earlier, position, rfl, tokens⟩ := ih
    rw [tokens_scanFrom more, ← append_assoc, ← length_append] at tokens
    exact ⟨_, _, _, by rw [append_assoc, List.take_append_drop], tokens⟩

/-- A token of a scan is the longest lexeme of some place, as it is written there. -/
lemma exists_lexeme (mem : t ∈ (scanFrom text offset position).tokens) :
    ∃ (rest : List Char) (kind : Lexeme.Kind) (n : Nat),
      Lexeme.longest? (rest.map Char.toUpper) = some (kind, n) ∧
      kindOf kind ((rest.take (max 1 n)).map Char.toUpper) = some t.kind ∧
      t.text = .ofList (rest.take (max 1 n)) := by
  induction size : text.length using Nat.strongRecOn generalizing text offset position with
  | ind n ih =>
    by_cases more : text = []
    · rw [more, scanFrom] at mem
      cases mem
    · rw [tokens_scanFrom more, mem_append, Option.mem_toList] at mem
      rcases mem with here | later
      · obtain ⟨⟨kind, n⟩, found, here⟩ := bind_eq_some_iff.1 here
        obtain ⟨terminal, named, here⟩ := bind_eq_some_iff.1 here
        have width : stride text = max 1 n := by
          rw [stride, found]
          rfl
        grind
      · refine ih _ ?_ later rfl
        have := length_pos_iff.2 more
        have : 1 ≤ stride text := Nat.le_max_left ..
        rw [length_drop]
        omega

end Scan

namespace Quote

def doubled (s : List Char) : List Char := s.flatMap fun c => if c = '\'' then [c, c] else [c]

/-- A text between quotes, with each quote in it written twice. -/
def write (s : List Char) : List Char := '\'' :: (doubled s ++ ['\''])

/-- Every carriage return in a text has a line feed behind it. -/
def HasWholeBreaks (s : List Char) : Prop :=
  ∀ before after, s = before ++ '\r' :: after → after.head? = some '\n'

lemma hasWholeBreaks_cons : HasWholeBreaks (c :: s) ↔
    (c = '\r' → s.head? = some '\n') ∧ HasWholeBreaks s := by
  constructor
  · intro breaks
    refine ⟨fun is => breaks [] s (by rw [is]; rfl), fun before after split => ?_⟩
    exact breaks (c :: before) after (by rw [split]; rfl)
  · rintro ⟨first, rest⟩ before after split
    cases before with
    | nil => grind
    | cons b before =>
      cases split
      exact rest before after rfl

open Lexeme (closing?)

lemma doubled_cons (noQuote : c ≠ '\'') : doubled (c :: s) = c :: doubled s := by
  simp [doubled, noQuote]

lemma closing?_quote (apart : rest.head? ≠ some '\'') : closing? ('\'' :: rest) = some 1 := by
  cases rest with
  | nil => rfl
  | cons c rest =>
    have other : c ≠ '\'' := fun is => apart (by rw [is]; rfl)
    simp [closing?, other]

lemma closing?_return (apart : rest.head? ≠ some '\n') : closing? ('\r' :: rest) = none := by
  cases rest with
  | nil => rfl
  | cons c rest =>
    have other : c ≠ '\n' := fun is => apart (by rw [is]; rfl)
    simp [closing?, other]

lemma closing?_cons (noQuote : c ≠ '\'') (noReturn : c ≠ '\r') :
    closing? (c :: rest) = (closing? rest).map (· + 1) := by
  simp [closing?, noQuote, noReturn]

lemma closing?_toUpper (text : List Char) : closing? (text.map Char.toUpper) = closing? text := by
  have fixed (mark) (plain : ∀ n < 26, Char.ofNat (97 + n) ≠ mark ∧
      (Char.ofNat (97 + n)).toUpper ≠ mark) (c) : c.toUpper = mark ↔ c = mark :=
    toUpper_cases (P := fun c d => d = mark ↔ c = mark) (fun _ _ => Iff.rfl)
      (fun n small => by simp [plain n small]) c
  have quote := fixed '\'' (by decide)
  have head {mark} (kept : ∀ c, c.toUpper = mark ↔ c = mark) (text : List Char)
      (apart : text.head? ≠ some mark) : (text.map Char.toUpper).head? ≠ some mark := by
    cases text <;> simp_all
  fun_induction closing? text with
  | case1 => rfl
  | case2 rest ih => simp [closing?, ih]
  | case3 rest other =>
    refine closing?_quote (head quote rest fun is => ?_)
    obtain ⟨more, rfl⟩ := List.head?_eq_some_iff.1 is
    exact other more rfl
  | case4 rest ih => simp [closing?, ih]
  | case5 rest other =>
    refine closing?_return (head (fixed '\n' (by decide)) rest fun is => ?_)
    obtain ⟨more, rfl⟩ := List.head?_eq_some_iff.1 is
    exact other more rfl
  | case6 c rest _ noQuote _ noReturn ih => rw [map_cons, closing?_cons (mt (quote c).1 noQuote)
      (mt (fixed '\r' (by decide) c).1 noReturn), ih]

/-- A quoted text ends with the quote that no other one follows. -/
lemma closing?_doubled (breaks : HasWholeBreaks s) (apart : after.head? ≠ some '\'') :
    closing? (doubled s ++ '\'' :: after) = some ((doubled s).length + 1) := by
  induction s with
  | nil => exact closing?_quote apart
  | cons c s ih =>
    obtain ⟨first, rest⟩ := hasWholeBreaks_cons.1 breaks
    have later := ih rest
    by_cases quote : c = '\''
    · subst quote
      change some (((closing? (doubled s ++ '\'' :: after)).map (· + 2)).getD 1) = _
      rw [later]
      rfl
    by_cases isReturn : c = '\r'
    · obtain ⟨more, rfl⟩ := List.head?_eq_some_iff.1 (first isReturn)
      subst isReturn
      change (closing? (doubled more ++ '\'' :: after)).map (· + 2) = _
      change (closing? (doubled more ++ '\'' :: after)).map (· + 1) = _ at later
      obtain ⟨n, given, same⟩ := map_eq_some_iff.1 later
      rw [given]
      exact congrArg (fun n => some (n + 1)) same
    · rw [doubled_cons quote, cons_append, closing?_cons quote isReturn, later]
      rfl

lemma doubled_of_closing? (closed : closing? text = some n) :
    ∃ s, HasWholeBreaks s ∧ text.take n = doubled s ++ ['\''] := by
  have empty : HasWholeBreaks [] := fun before after split => by simp at split
  fun_induction closing? text generalizing n with
  | case1 => cases closed
  | case2 rest ih =>
    cases found : closing? rest with
    | none =>
      rw [found] at closed
      cases closed
      exact ⟨[], empty, rfl⟩
    | some k =>
      rw [found] at closed
      cases closed
      obtain ⟨s, breaks, is⟩ := ih found
      exact ⟨'\'' :: s, hasWholeBreaks_cons.2 ⟨(absurd · (by decide)), breaks⟩,
        congrArg (fun text => '\'' :: '\'' :: text) is⟩
  | case3 rest other =>
    cases closed
    exact ⟨[], empty, rfl⟩
  | case4 rest ih =>
    obtain ⟨k, found, rfl⟩ := map_eq_some_iff.1 closed
    obtain ⟨s, breaks, is⟩ := ih found
    exact ⟨'\r' :: '\n' :: s, hasWholeBreaks_cons.2 ⟨fun _ => rfl, hasWholeBreaks_cons.2
      ⟨(absurd · (by decide)), breaks⟩⟩, congrArg (fun text => '\r' :: '\n' :: text) is⟩
  | case5 => cases closed
  | case6 c rest _ noQuote _ noReturn ih =>
    obtain ⟨k, found, rfl⟩ := map_eq_some_iff.1 closed
    obtain ⟨s, breaks, is⟩ := ih found
    refine ⟨c :: s, hasWholeBreaks_cons.2 ⟨fun is => absurd is noReturn, breaks⟩, ?_⟩
    rw [doubled_cons noQuote]
    exact congrArg (c :: ·) is

lemma undouble_doubled (s : List Char) : Compile.undouble (doubled s) = s := by
  induction s with
  | nil => rfl
  | cons c s ih =>
    by_cases quote : c = '\''
    · subst quote
      exact congrArg _ ih
    · rw [doubled_cons quote]
      simp [Compile.undouble, quote, ih]

lemma unquote_write (s : List Char) :
    Compile.unquote (String.ofList (write s)) = String.ofList s := by
  simp [Compile.unquote, write, undouble_doubled]

lemma write_injective : Function.Injective write := by
  intro s s' same
  have inner : doubled s = doubled s' := List.append_cancel_right (List.cons.inj same).2
  rw [← undouble_doubled s, inner, undouble_doubled]

lemma longest?_write (breaks : HasWholeBreaks s) (apart : after.head? ≠ some '\'') :
    Lexeme.longest? ((write s ++ after).map Char.toUpper) =
      some (.token .CHAR_STRING, (write s).length) := by
  have closed : Lexeme.closing? (((doubled s ++ ['\'']) ++ after).map Char.toUpper) =
      some ((doubled s).length + 1) := by
    rw [closing?_toUpper, append_assoc]
    exact closing?_doubled breaks apart
  rw [write, cons_append]
  refine (Lexeme.longest?_quote _).trans ?_
  rw [closed, length_cons, length_append]
  rfl

/-- Scanning and reading undo `write`: where a scan comes to a written text that no further quote
follows, it takes the whole of it as one token and goes on behind it, and the token is translated
to the text. A token that begins with a quote is a written text, and of one text only. -/
theorem quoted_text_scanned_back :
    (∀ s before after, HasWholeBreaks s → after.head? ≠ some '\'' →
      Scan.Reaches (before ++ (write s ++ after)) (write s ++ after) →
      ∃ earlier t behind, (scan (.ofList (before ++ (write s ++ after)))).tokens =
          earlier ++ t :: (Scan.scanFrom after (before.length + (write s).length) behind).tokens ∧
        t.kind = .CHAR_STRING ∧ t.text = .ofList (write s) ∧ t.start = before.length ∧
        ∀ source scope, Compile.compile source (.node .quotedString [.leaf t]) scope =
          .ok ([.cell (.constant (.text (.ofList s)))], scope)) ∧
    ∀ source, ∀ t ∈ (scan source).tokens, t.text.toList.head? = some '\'' →
      t.kind = .CHAR_STRING ∧ ∃ s, HasWholeBreaks s ∧ t.text = .ofList (write s) ∧
        ∀ s', t.text = .ofList (write s') → s' = s := by
  refine ⟨fun s before after breaks apart reached => ?_, fun source t mem opens => ?_⟩
  · obtain ⟨before', earlier, position, split, tokens⟩ := reached.tokens
    cases List.append_cancel_right split
    have found := longest?_write breaks apart
    have width : Scan.stride (write s ++ after) = (write s).length := by
      rw [Scan.stride, found]
      exact Nat.max_eq_right (Nat.succ_pos _)
    have more : write s ++ after ≠ [] := cons_ne_nil _ _
    rw [Scan.tokens_scanFrom more, Scan.token?, found, width, List.take_left, List.drop_left]
      at tokens
    refine ⟨earlier, _, _, by rw [scan, String.toList_ofList]; exact tokens, rfl, rfl, rfl,
      fun source scope => ?_⟩
    rw [Compile.compile, ← unquote_write s]
    rfl
  · obtain ⟨text, kind, n, found, named, is⟩ := Scan.exists_lexeme mem
    rw [is, String.toList_ofList, List.head?_take, if_neg (by omega)] at opens
    obtain ⟨rest, rfl⟩ := List.head?_eq_some_iff.1 opens
    rw [map_cons] at found
    have quoted := (Lexeme.longest?_quote _).symm.trans found
    rw [closing?_toUpper] at quoted
    obtain ⟨k, closed, ⟨⟩⟩ := map_eq_some_iff.1 quoted
    obtain ⟨s, breaks, inner⟩ := doubled_of_closing? closed
    have written : t.text = .ofList (write s) := by
      rw [is, Nat.max_eq_right (Nat.succ_pos k), List.take_succ_cons, inner]
      rfl
    refine ⟨(Option.some.inj named).symm, s, breaks, written, fun s' same => ?_⟩
    exact write_injective (String.ofList_injective (same.symm.trans written))

theorem quoted_text_after_parenthesis :
    ∃ earlier t behind, (scan "('it''s');").tokens =
        earlier ++ t :: (Scan.scanFrom [')', ';'] 8 behind).tokens ∧
      t.kind = .CHAR_STRING ∧ t.text = "'it''s'" ∧ t.start = 1 ∧
      ∀ source scope, Compile.compile source (.node .quotedString [.leaf t]) scope =
        .ok ([.cell (.constant (.text "it's"))], scope) := by
  have breaks : HasWholeBreaks "it's".toList := fun before after split => by
    have : '\r' ∈ "it's".toList := split ▸ by simp
    exact absurd this (by decide)
  have width : Scan.stride "('it''s');".toList = 1 := by decide +kernel
  have reached : Scan.Reaches "('it''s');".toList _ := .step .start (by decide)
  rw [width] at reached
  exact quoted_text_scanned_back.1 "it's".toList ['('] [')', ';'] breaks (by decide) reached

end Quote
end BlockScript
