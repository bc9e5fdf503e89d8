import BlockScript.Proofs.Phrases

/-!
Branches, loops and bodies. A branch is put together from the flat list of its parts, from the last
one to the first: marks tell where an alternative begins.
-/

namespace BlockScript.Compile

def IsUnmarked (part : Draft) : Prop := part ≠ .elsifMark ∧ part ≠ .elseMark

section

variable {parts body alternatives : List Draft} {c : Chain}

lemma step_unmarked (unmarked : IsUnmarked part) :
    c.step part = .ok { c with body := part :: c.body, latest := part } := by
  unfold Chain.step
  split
  · exact absurd rfl unmarked.2
  · exact absurd rfl unmarked.1
  · rfl

lemma gather (unmarked : ∀ part ∈ parts, IsUnmarked part) : parts.reverse.foldlM Chain.step c =
      .ok { c with body := parts ++ c.body, latest := parts.headD c.latest } := by
  induction parts with
  | nil => rfl
  | cons part parts ih =>
    rw [reverse_cons, foldlM_append, ih fun p mem => unmarked p (by simp [mem])]
    simp only [foldlM_cons, step_unmarked (unmarked part (by simp))]
    rfl

section

variable (unmarkedTest : IsUnmarked test) (unmarked : ∀ part ∈ body, IsUnmarked part)
  (later : alternatives.reverse.foldlM Chain.step {} = .ok ⟨[], orelse, latest⟩)
include unmarkedTest unmarked later

lemma gather_branch : (test :: body ++ alternatives).reverse.foldlM Chain.step {} =
      .ok ⟨test :: body, orelse, test⟩ := by
  rw [List.reverse_append, foldlM_append, later]
  change (test :: body).reverse.foldlM Chain.step _ = _
  rw [gather (by simpa using ⟨unmarkedTest, unmarked⟩)]
  simp

lemma branch_parts : branch (test :: body ++ alternatives) = .ok (.branch test body orelse) := by
  rw [branch, gather_branch unmarkedTest unmarked later]
  rfl

lemma elsif_parts : (.elsifMark :: (test :: body ++ alternatives)).reverse.foldlM Chain.step {} =
      .ok ⟨[], [.branch test body orelse], .elsifMark⟩ := by
  rw [reverse_cons, foldlM_append, gather_branch unmarkedTest unmarked later]
  rfl

end

lemma else_parts (unmarked : ∀ part ∈ body, IsUnmarked part) :
    (.elseMark :: body).reverse.foldlM Chain.step {} = .ok ⟨[], body, .elseMark⟩ := by
  rw [reverse_cons, foldlM_append, gather unmarked]
  simp [bind, Except.bind, Chain.step, pure, Except.pure]

end

def unlabelled (children : List (Tree Token)) (parts : List Draft) :
    Except Reject (List Draft) := do
  if hasPhrase children .labelDeclaration then dropFinal (← first parts).2 else pure parts

def loopOf (children : List (Tree Token)) (parts : List Draft) : Except Reject Draft := do
  if has children .WHILE then
    let (test, body) ← first parts
    return .whileLoop test body
  else if has children .FOR then
    let (loop, body) ← first parts
    return withBody loop body
  else return .whileLoop (.constant (.bool true)) parts

lemma loop_eq (ts parts) : loop ts parts = (do loopOf ts (← unlabelled ts parts)) := by
  unfold loop unlabelled
  dsimp only
  split
  · cases parts <;> rfl
  · rfl

def unnamed (parts : List Draft) : List Draft :=
  match parts.getLast? with
  | some (.name _) => parts.dropLast
  | _ => parts

lemma body_eq (parts) : body parts = if (parts.filter Draft.isHandler).isEmpty then
        unnamed (parts.filter (!·.isHandler))
      else [.guard (unnamed (parts.filter (!·.isHandler))) (parts.filter Draft.isHandler)] :=
  rfl

inductive IsDirection : Bool → List (Tree Token) → Prop where
  | up : IsDirection false []
  | down (word : IsLeaf .REVERSE w) : IsDirection true [w]

lemma IsDirection.skip (direction : IsDirection isReverse ts) (rest) :
    compileAll src (ts ++ rest) s = compileAll src rest s := by
  cases direction with
  | up => rfl
  | down word => exact word.skip

lemma compile_bounds
    (id : compile src t (s.declare t.capitals) = .ok ([.ident t.capitals], s.declare t.capitals))
    (word : IsLeaf .IN i) (direction : IsDirection isReverse ds) (dots : IsLeaf .DOUBLE_PERIOD p)
    (first : compile src (.node .lowerBound lower) (s.declare t.capitals) = .ok ([a], s1))
    (last : compile src (.node .upperBound upper) s1 = .ok ([b], s2)) :
    compile src (.node .cursorLoopParam (.node .indexName [t] :: i ::
      (ds ++ [.node .lowerBound lower, p, .node .upperBound upper]))) s =
      .ok ([.forLoop (.name (.ident t.capitals)) (.call (.ident "mrange") [a, b]) []], s2) := by
  have names : namesOf (.node .indexName [t] :: i ::
      (ds ++ [.node .lowerBound lower, p, .node .upperBound upper])) .indexName = [t.capitals] := by
    obtain ⟨_, -⟩ := word
    obtain ⟨_, -⟩ := dots
    cases direction with
    | up => simp [namesOf, Tree.kind?]
    | down word =>
      obtain ⟨_, -⟩ := word
      simp [namesOf, Tree.kind?]
  have parts : compileAll src (.node .indexName [t] :: i ::
      (ds ++ [.node .lowerBound lower, p, .node .upperBound upper])) (s.declare t.capitals) =
      .ok ([.ident t.capitals] ++ ([a] ++ [b]), s2) := by
    apply compileAll_cons (compile_of_parts (compileAll_single id) rfl)
    rw [word.skip, direction.skip]
    apply compileAll_cons first
    rw [dots.skip]
    exact compileAll_single last
  rw [compile]
  simp only [names]
  change (do
    let x ← compileAll src _ (s.declare t.capitals)
    assemble _ .cursorLoopParam x.1 x.2) = _
  rw [parts]
  rfl

end BlockScript.Compile
