import BlockScript.Proofs.Placeholders
import BlockScript.Proofs.Resemblance

/-!
A piece of code in different sources. What a tree compiles to does not depend on where its text
stands: the offsets of tokens serve only to find the text of a query and the references in it.
-/

namespace BlockScript

def StandsAt (text source : String) (offset : Nat) : Prop :=
  text.toList <+: source.toList.drop offset

def Displaces (offset : Nat) (move : Token → Token) : Prop :=
  ∀ token, (move token).kind = token.kind ∧ (move token).text = token.text ∧
    (move token).start = token.start + offset ∧ (move token).stop = token.stop + offset

lemma Displaces.keepsWords (displaces : Displaces offset move) : KeepsWords move where
  kind token := (displaces token).1
  capitals token := congrArg String.toUpper (displaces token).2.1

lemma Displaces.keepsReading (displaces : Displaces offset move) :
    Compile.KeepsReading Eq move where
  toKeepsWords := displaces.keepsWords
  quoted token _ := (displaces token).2.1
  rejected what t := by rw [Tree.text_map fun token => (displaces token).2.1]

def LiesIn (text : String) (t : Tree Token) : Prop :=
  ∀ token ∈ t.leaves, token.stop < text.length

instance (text : String) (t : Tree Token) : Decidable (LiesIn text t) :=
  inferInstanceAs (Decidable (∀ token ∈ t.leaves, token.stop < text.length))

lemma LiesIn.inside (lies : LiesIn text (.node kind ts)) (mem : t ∈ ts) : LiesIn text t := by
  intro token inside
  refine lies token ?_
  rw [Tree.leaves, Tree.leavesAll_eq_flatMap]
  exact List.mem_flatMap_of_mem mem inside

namespace Embedded

variable {declared : List String}

lemma spannedText_map (displaces : Displaces offset move) (stands : StandsAt text src offset)
    (lies : LiesIn text t) : spannedText src (t.map move) = spannedText text t := by
  obtain ⟨rest, whole⟩ := stands
  have slice (i n) (room : i + n ≤ text.toList.length) :
      (src.toList.drop (i + offset)).take n = (text.toList.drop i).take n := by
    rw [Nat.add_comm, ← List.drop_drop, ← whole, List.drop_append_of_le_length (by omega),
      List.take_append_of_le_length (by rw [length_drop]; omega)]
  unfold spannedText Tree.firstToken? Tree.lastToken?
  rw [Tree.leaves_map, List.head?_map, List.getLast?_map]
  cases first : t.leaves.head? with
  | none => rfl
  | some a =>
    cases last : t.leaves.getLast? with
    | none => rfl
    | some b =>
      have room : b.stop < text.toList.length := lies b (List.mem_of_getLast? last)
      simp only [map_some]
      rw [(displaces a).2.2.1, (displaces b).2.2.2]
      by_cases forward : a.start ≤ b.stop + 1
      · grind
      · rw [show b.stop + offset + 1 - (a.start + offset) = 0 by omega,
          show b.stop + 1 - a.start = 0 by omega]
        simp

/-- What is found in a tree, and in the same tree displaced. -/
inductive Relocated (offset : Nat) (tokens : List Token) : List Found → List Found → Prop where
  | references (rs : List Reference) (placed : tokens = [] → rs = []) :
      Relocated offset tokens (rs.map .reference) ((rs.map (·.moved (-offset))).map .reference)
  | nested {found other : List Found} {a b : String} (same : found.length = other.length)
      (query : .query a ∈ found) (query' : .query b ∈ other) : Relocated offset tokens found other

inductive Finds (offset : Nat) (tokens : List Token) :
    Except Reject (List Found) → Except Reject (List Found) → Prop where
  | ok {found other : List Found} (relocated : Relocated offset tokens found other) :
      Finds offset tokens (.ok found) (.ok other)
  | error {reason : Reject} : Finds offset tokens (.error reason) (.error reason)

section

variable {found : List Found}

lemma Relocated.append (first : Relocated offset tokens found other)
    (second : Relocated offset more found' other') :
    Relocated offset (tokens ++ more) (found ++ found') (other ++ other') := by
  cases first with
  | references rs placed =>
    cases second with
    | references rs' placed' =>
      rw [← map_append, ← map_append, ← map_append]
      refine .references (rs ++ rs') fun none => ?_
      obtain ⟨front, back⟩ := List.append_eq_nil_iff.1 none
      rw [placed front, placed' back, append_nil]
    | nested same query query' =>
      exact .nested (by simp [same]) (mem_append_right _ query) (mem_append_right _ query')
  | nested same query query' =>
    refine .nested ?_ (mem_append_left _ query) (mem_append_left _ query')
    cases second with
    | references rs' placed' => simp [same]
    | nested same' _ _ => simp [same, same']

lemma joinParts_nested (query : .query a ∈ found) :
    joinParts found = if found.length = 1 then .ok found
      else if found.length = 2 then .error .misplaced else .ok [] := by
  match found with
  | [] => cases query
  | [part] => rfl
  | [first, second] =>
    cases first with
    | query text => cases second <;> rfl
    | reference r =>
      cases second with
      | query text => rfl
      | reference q => simp at query
  | _ :: _ :: _ :: rest => simp [joinParts]

lemma Relocated.join (relocated : Relocated offset tokens found other) :
    Finds offset tokens (joinParts found) (joinParts other) := by
  cases relocated with
  | references rs placed => match rs with
    | [] => exact .ok (.references [] placed)
    | [r] => exact .ok (.references [r] placed)
    | [record, field] => exact .ok (.references
        [{ record with attrs := record.attrs ++ [field.root], stop := field.stop }]
        fun none => absurd (placed none) nofun)
    | _ :: _ :: _ :: _ => exact .ok (.references [] fun _ => rfl)
  | nested same query query' =>
    rw [joinParts_nested query, joinParts_nested query', same]
    split
    · exact .ok (.nested same query query')
    · split
      · exact .error
      · exact .ok (.references [] fun _ => rfl)

lemma mapM_nested (query : .query a ∈ found) (shift : Int) :
    found.mapM (relative shift) = .error .misplaced := by
  induction found with
  | nil => cases query
  | cons part found ih =>
    rw [mapM_cons]
    cases part with
    | query text => rfl
    | reference r =>
      rw [ih ((mem_cons.1 query).resolve_left nofun)]
      rfl

lemma origin_map (displaces : Displaces offset move) (some : t.leaves ≠ []) :
    origin (t.map move) = origin t + offset := by
  unfold origin Tree.firstToken?
  rw [Tree.leaves_map, List.head?_map]
  cases first : t.leaves with
  | nil => exact absurd first some
  | cons token tokens => simp [(displaces token).2.2.1]

lemma assemble_map (displaces : Displaces offset move) (stands : StandsAt text src offset)
    (lies : LiesIn text t) (relocated : Relocated offset t.leaves found other) :
    assemble src declared (t.map move) other = assemble text declared t found := by
  change (other.mapM (relative (origin (t.map move))) >>= fun refs =>
      pure (bind (spannedText src (t.map move)) refs declared)) =
    (found.mapM (relative (origin t)) >>= fun refs =>
      pure (bind (spannedText text t) refs declared))
  rw [spannedText_map displaces stands lies]
  cases relocated with
  | references rs placed =>
    rw [relative_references, relative_references]
    have same : (rs.map (·.moved (-offset))).map (·.moved (origin (t.map move))) =
        rs.map (·.moved (origin t)) := by
      by_cases none : t.leaves = []
      · rw [placed none]
        rfl
      · rw [List.map_map]
        refine map_congr_left fun r _ => ?_
        simp only [Reference.moved, origin_map displaces none]
        grind
    rw [same]
  | nested _ query query' => rw [mapM_nested query, mapM_nested query']

end

lemma word_map (displaces : Displaces offset move) (ts) :
    Finds offset (Tree.leavesAll ts) (collect text declared (.node .regularId ts))
      (collect src declared (.node .regularId (Tree.mapAll move ts))) := by
  have word : (Tree.node .regularId (Tree.mapAll move ts)).capitals =
      (Tree.node .regularId ts).capitals :=
    Tree.capitals_map displaces.keepsWords (.node .regularId ts)
  unfold collect
  simp only [Tree.firstToken?, Tree.lastToken?, word, Tree.leaves, Tree.leavesAll_mapAll,
    List.head?_map, List.getLast?_map]
  rcases first : (Tree.leavesAll ts).head? with _ | a
  · exact .error
  rcases last : (Tree.leavesAll ts).getLast? with _ | b
  · exact .error
  simp only [map_some, (displaces a).2.2.1, (displaces b).2.2.2]
  have some : Tree.leavesAll ts ≠ [] := by
    intro none
    simp [none] at first
  have moved := @Relocated.references offset _
    [⟨(Tree.node .regularId ts).capitals, [], a.start, b.stop⟩] fun none => absurd none some
  simp only [Reference.moved, Int.sub_neg] at moved
  exact .ok moved

variable (displaces : Displaces offset move) (stands : StandsAt text src offset)
include displaces stands

mutual
theorem collect_map (t) (lies : LiesIn text t) :
    Finds offset t.leaves (collect text declared t) (collect src declared (t.map move)) := by
  match t with
  | .leaf _ => exact .ok (.references [] fun _ => rfl)
  | .node kind ts =>
    rw [Tree.map]
    by_cases word : kind = .regularId
    · subst word
      exact word_map displaces ts
    have parts := collectAll_map ts fun t mem => lies.inside mem
    unfold collect
    split
    · exact absurd rfl word
    · generalize collectAll text declared ts = left at parts ⊢
      generalize collectAll src declared (Tree.mapAll move ts) = right at parts ⊢
      cases parts with
      | error => exact .error
      | ok relocated => exact relocated.join
    · generalize collectAll text declared ts = left at parts ⊢
      generalize collectAll src declared (Tree.mapAll move ts) = right at parts ⊢
      cases parts with
      | error => exact .error
      | @ok found other relocated =>
        have same : assemble src declared (.node .selectStatement (Tree.mapAll move ts))
            other = assemble text declared (.node .selectStatement ts) found :=
          assemble_map (t := .node .selectStatement ts) displaces stands lies relocated
        simp only [Bind.bind, Except.bind]
        rw [same]
        rcases assemble text declared (.node .selectStatement ts) found with
          reason | ⟨query, refs⟩
        · exact .error
        · exact .ok (.nested rfl mem_cons_self mem_cons_self)
    · exact parts

theorem collectAll_map (ts) (lies : ∀ t ∈ ts, LiesIn text t) :
    Finds offset (Tree.leavesAll ts) (collectAll text declared ts)
      (collectAll src declared (Tree.mapAll move ts)) := by
  match ts with
  | [] => exact .ok (.references [] fun _ => rfl)
  | t :: ts =>
    have here := collect_map t (lies t mem_cons_self)
    have rest := collectAll_map ts fun t mem => lies t (mem_cons_of_mem _ mem)
    rw [Tree.mapAll, collectAll, collectAll, Tree.leavesAll]
    generalize collect text declared t = left at here ⊢
    generalize collect src declared (t.map move) = right at here ⊢
    cases here with
    | error => exact .error
    | ok first =>
      generalize collectAll text declared ts = left at rest ⊢
      generalize collectAll src declared (Tree.mapAll move ts) = right at rest ⊢
      cases rest with
      | error => exact .error
      | ok second => exact .ok (first.append second)
end

lemma query_map (lies : LiesIn text (.node kind ts)) :
    query src declared (.node kind (Tree.mapAll move ts)) =
      query text declared (.node kind ts) := by
  have parts : Finds offset (Tree.leavesAll ts) (collectAll text declared ts)
      (collectAll src declared (Tree.mapAll move ts)) :=
    collectAll_map displaces stands ts fun t mem => lies.inside mem
  unfold query
  simp only [Tree.children]
  generalize collectAll text declared ts = left at parts ⊢
  generalize collectAll src declared (Tree.mapAll move ts) = right at parts ⊢
  cases parts with
  | error => rfl
  | ok relocated => exact assemble_map (t := .node kind ts) displaces stands lies relocated

end Embedded

namespace Compile

variable (displaces : Displaces offset move) (stands : StandsAt text src offset)
include displaces stands

lemma accords_displaced : Accords src text move (fun _ : Unit => Eq) Eq (fun t _ => LiesIn text t)
      fun t _ => LiesIn text t :=
  accords_eq (fun lies _ _ mem => lies.inside mem)
    fun lies _ => Embedded.query_map displaces stands lies

/-- A tree compiles alike wherever its text stands. -/
lemma compile_displaced (t) (lies : LiesIn text t) : compile src (t.map move) = compile text t := by
  have accords := accords_displaced displaces stands
  funext s
  exact (matching_compile (i := ()) displaces.keepsReading accords accords t lies rfl).eq

lemma compileAll_displaced (ts) (lies : ∀ t ∈ ts, LiesIn text t) :
    compileAll src (Tree.mapAll move ts) = compileAll text ts := by
  have accords := accords_displaced displaces stands
  funext s
  exact (matching_compileAll (i := ()) displaces.keepsReading accords accords ts
    (throughout_of_forall lies s) rfl).eq

end Compile
end BlockScript
