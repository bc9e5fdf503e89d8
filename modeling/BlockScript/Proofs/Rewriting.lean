import BlockScript.Proofs.Agreement
import BlockScript.Proofs.Expressions

/-!
The text that a query is sent with. It should be the text of the query with a placeholder in the
place of each reference to a declared name in an expression, and nothing else changed.
-/

namespace BlockScript.Embedded

open Compile (lacksAll)

def rewritten : List Reference → Int → List Char → List Char
  | [], _, text => text
  | r :: rs, position, text =>
    text.take (r.start - position).toNat ++ (r.placeholder.toList ++
      rewritten rs (r.stop + 1) (text.drop (r.stop + 1 - position).toNat))

def IsCompact (r : Reference) : Prop := r.stop + 1 = r.start + r.name.length

instance (r : Reference) : Decidable (IsCompact r) := inferInstanceAs (Decidable (_ = _))

section

variable {rs : List Reference} {r : Reference}

lemma substitute_declaredAmong (rs) (offset : Int) (text : List Char) :
    substitute declared rs offset text = substitute declared (declaredAmong declared rs) offset text
    := by
  induction rs generalizing offset text with
  | nil => rfl
  | cons r rs ih =>
    by_cases known : declared.contains r.root = true
    · rw [declaredAmong_known known, substitute, substitute, if_pos known, if_pos known, ih]
    · rw [declaredAmong_unknown known, substitute, if_neg known, ih]

lemma length_placeholder (r : Reference) : r.placeholder.toList.length = r.name.length + 3 := by
  simp [Reference.placeholder_eq, String.length_toList]

/-- References in a text: each begins with a character of a name, and the text goes on to its
end. -/
structure StandIn (rs : List Reference) (position : Int) (text : List Char) : Prop where
  apart : rs.Pairwise Apart
  room : ∀ r ∈ rs, r.start + r.name.length ≤ r.stop + 1
  ahead : ∀ r ∈ rs, position ≤ r.start
  within : ∀ r ∈ rs, r.stop + 1 - position ≤ text.length
  letters : ∀ r ∈ rs, ∃ c, text[(r.start - position).toNat]? = some c ∧ c ≠ ':'

lemma StandIn.tail (stand : StandIn (r :: rs) position text) :
    StandIn rs (r.stop + 1) (text.drop (r.stop + 1 - position).toNat) := by
  obtain ⟨behind, apart⟩ := pairwise_cons.1 stand.apart
  obtain ⟨own, room⟩ := forall_mem_cons.1 stand.room
  obtain ⟨here, -⟩ := forall_mem_cons.1 stand.ahead
  obtain ⟨inside, within⟩ := forall_mem_cons.1 stand.within
  obtain ⟨-, letters⟩ := forall_mem_cons.1 stand.letters
  refine ⟨apart, room, fun q mem => ?_, fun q mem => ?_, fun q mem => ?_⟩
  · have next := behind q mem
    unfold Apart at next
    omega
  · grind
  · obtain ⟨c, is, word⟩ := letters q mem
    have next := behind q mem
    have same : (r.stop + 1 - position).toNat + (q.start - (r.stop + 1)).toNat =
        (q.start - position).toNat := by
      unfold Apart at next
      omega
    exact ⟨c, by rw [List.getElem?_drop, same, is], word⟩

lemma substitute_step (rs) (known : declared.contains r.root = true)
    (here : position ≤ r.start) (own : r.start + r.name.length ≤ r.stop + 1)
    (inside : r.stop + 1 - position ≤ rest.length)
    (aligned : (done.length : Int) = position + offset) :
    ∃ done', substitute declared (r :: rs) offset (done ++ rest) =
        substitute declared rs (offset + 3) (done' ++ rest.drop (r.stop + 1 - position).toNat) ∧
      done ++ rewritten (r :: rs) position rest =
        done' ++ rewritten rs (r.stop + 1) (rest.drop (r.stop + 1 - position).toNat) ∧
      (done'.length : Int) = r.start + r.name.length + (offset + 3) := by
  have upper : Slice.upTo (done ++ rest) (r.start + offset) =
      done ++ rest.take (r.start - position).toNat := by
    rw [upTo_append (by omega), show r.start + offset - done.length = r.start - position by omega]
  have lower : Slice.since (done ++ rest) (r.stop + offset + 1) =
      rest.drop (r.stop + 1 - position).toNat := by
    rw [since_append (by omega),
      show r.stop + offset + 1 - done.length = r.stop + 1 - position by omega]
  refine ⟨done ++ rest.take (r.start - position).toNat ++ r.placeholder.toList, ?_, ?_, ?_⟩
  · rw [substitute, if_pos known, upper, lower]
  · simp [rewritten]
  · simp only [length_append, length_take, length_placeholder]
    omega

end

section

variable {source : String} {declared : List String} {refs : List Reference}

lemma IsOrdered.declaredAmong (ordered : IsOrdered t rs) :
    IsOrdered t (declaredAmong declared rs) where
  stand r member := ordered.stand r (mem_filter.1 member).1
  apart := ordered.apart.filter _
  ahead r member := ordered.ahead r (mem_filter.1 member).1

lemma nodup_roots_distinct {kept : List Reference} (nodup : (kept.map (·.root)).Nodup) :
    ((refs.foldl (fun kept r => if kept.any r.sameVariable then kept else kept ++ [r])
      kept).map (·.root)).Nodup := by
  induction refs generalizing kept with
  | nil => exact nodup
  | cons r refs ih =>
    rw [List.foldl_cons]
    split
    case isTrue known => exact ih nodup
    case isFalse new =>
      refine ih ?_
      rw [map_append, List.map_singleton, nodup_append]
      refine ⟨nodup, List.pairwise_singleton _ _, ?_⟩
      intro root mem other single same
      obtain ⟨q, inside, rfl⟩ := mem_map.1 mem
      rw [mem_singleton.1 single] at same
      exact new (List.any_eq_true.2 ⟨q, inside, by simp [Reference.sameVariable, same]⟩)

lemma nodup_roots_bound : ((bound declared refs).map (·.root)).Nodup := by
  have nodup : ((distinct refs).map (·.root)).Nodup := nodup_roots_distinct .nil
  have filtered : (((distinct refs).filter fun r => declared.contains r.root).map
      (·.root)).Nodup := nodup.sublist (List.filter_sublist.map _)
  exact ((List.mergeSort_perm _ _).map _).nodup_iff.2 filtered

mutual
def selects : Tree Token → Bool
  | .leaf _ => false
  | .node kind children =>
    if kind = .selectStatement then true
    else if kind = .regularId ∨ kind = .generalElement then false
    else selectsAny children

def selectsAny : List (Tree Token) → Bool
  | [] => false
  | t :: ts => selects t || selectsAny ts
end

mutual
theorem selects_found (t) (selection : selects t = true) {found : List Found}
    (collected : collect source declared t = .ok found) : ∃ text, .query text ∈ found := by
  match t with
  | .leaf _ => cases selection
  | .node kind ts =>
    by_cases select : kind = .selectStatement
    · subst select
      obtain ⟨inner, -, rest⟩ := Compile.steps_of_bind collected
      obtain ⟨⟨text, refs⟩, -, made⟩ := Compile.steps_of_bind rest
      cases made
      exact ⟨text, mem_cons_self⟩
    rw [selects, if_neg select] at selection
    by_cases name : kind = .regularId ∨ kind = .generalElement
    · grind
    · rw [if_neg name] at selection
      obtain ⟨word, element⟩ := not_or.1 name
      rw [collect_plain word element select] at collected
      exact selectsAny_found ts selection collected

theorem selectsAny_found (ts) (selection : selectsAny ts = true)
    {found : List Found} (collected : collectAll source declared ts = .ok found) :
    ∃ text, .query text ∈ found := by
  match ts with
  | [] => cases selection
  | t :: ts =>
    obtain ⟨here, first, rest⟩ := Compile.steps_of_bind collected
    obtain ⟨others, later, made⟩ := Compile.steps_of_bind rest
    cases made
    rcases Bool.or_eq_true_iff.1 selection with own | other
    · obtain ⟨text, mem⟩ := selects_found t own first
      exact ⟨text, mem_append_left _ mem⟩
    · obtain ⟨text, mem⟩ := selectsAny_found ts other later
      exact ⟨text, mem_append_right _ mem⟩
end

end

open Query (insertionToken)

def rowTree (table : Token) (values : List (Tree Token)) (close : Nat) : Tree Token :=
  .node .dataManipulationLanguageStatements [.node .insertStatement [
    .leaf (insertionToken .INSERT "insert" 0), .leaf (insertionToken .INTO "into" 7),
    .node .tableviewName [identifierOf table],
    .leaf (insertionToken .VALUES "values" (table.stop + 2)),
    .leaf (insertionToken .LEFT_PAREN "(" (table.stop + 9)),
    .node .expressions values, .leaf (insertionToken .RIGHT_PAREN ")" close)]]

def elementOf (parts : List (Tree Token)) : Tree Token :=
  .node .expression [.node .generalElement [.node .generalElementPart parts]]

def identifierAt (text : String) (start : Nat) : Tree Token :=
  identifierOf (insertionToken .REGULAR_ID text start)

def row : Tree Token :=
  rowTree (insertionToken .REGULAR_ID "users" 12)
    [elementOf [identifierAt "rc" 26, .leaf (insertionToken .PERIOD "." 28), identifierAt "id" 29],
      .leaf (insertionToken .COMMA "," 31), elementOf [identifierAt "x" 33]] 34

def call : Tree Token :=
  rowTree (insertionToken .REGULAR_ID "t" 12)
    [elementOf [identifierAt "upper" 22, .node .functionArgument [
      .leaf (insertionToken .LEFT_PAREN "(" 27), .node .argument [elementOf [identifierAt "x" 28]],
      .leaf (insertionToken .RIGHT_PAREN ")" 29)]]] 30

end BlockScript.Embedded
