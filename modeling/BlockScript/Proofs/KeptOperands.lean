import BlockScript.Proofs.PackageMembers

/-!
What becomes of the operands of an expression. Most phrases hand on all their parts, and most
operators and built-in functions take all of them.
-/

namespace BlockScript

namespace Draft

mutual
def leaves : Draft → List Draft
  | .constant value => [.constant value]
  | .call func [] => [.call func []]
  | .call _ (argument :: rest) => argument.leaves ++ leavesAll rest
  | .attribute value _ | .negative value => value.leaves
  | .binary left _ right => left.leaves ++ right.leaves
  | .compare left sign right => left.leaves ++ (sign.leaves ++ right.leaves)
  | .connect _ operands => leavesAll operands
  | _ => []

def leavesAll : List Draft → List Draft
  | [] => []
  | d :: rest => d.leaves ++ leavesAll rest
end

lemma leavesAll_eq (ds) : leavesAll ds = ds.flatMap leaves := by
  induction ds with
  | nil => rfl
  | cons d ds ih => rw [leavesAll, ih, flatMap_cons]

lemma leavesAll_append (ds es) : leavesAll (ds ++ es) = leavesAll ds ++ leavesAll es := by
  simp [leavesAll_eq]

@[simp]
lemma leavesAll_single (d) : leavesAll [d] = d.leaves := by
  rw [leavesAll, leavesAll, append_nil]

lemma leaves_call (func) (some_argument : arguments ≠ []) :
    (Draft.call func arguments).leaves = leavesAll arguments := by
  cases arguments with
  | nil => exact absurd rfl some_argument
  | cons => rw [leaves, leavesAll]

end Draft

namespace Compile

open Draft

def inner : List Nonterminal :=
  [.condition, .expressions, .expression, .multisetExpression, .compoundExpression, .inElements,
    .betweenElements, .modelExpression, .atom, .quantifiedExpression, .standardFunction,
    .numericFunctionWrapper, .numericFunction, .functionArgument, .argument, .relationalExpression,
    .logicalExpression, .concatenation, .unaryExpression, .stringFunction, .generalElement,
    .generalElementPart]

def Takes (t : Tree Token) (kind : Nonterminal) (parts : List Draft) : Prop :=
  match kind with
  | .relationalExpression => parts.length = 1 ∨ parts.length = 3
  | .concatenation | .stringFunction => parts ≠ []
  | .unaryExpression | .generalElement => parts.length = 1
  | .generalElementPart => hasPhrase t.children .functionArgument = true ∧
    ∃ names arguments, parts = names ++ arguments ∧ arguments ≠ [] ∧ leavesAll names = [] ∧
      names.length = (namesOf t.children .idExpression).length
  | _ => True

section

variable {parts : List Draft}

lemma concatenation_leaves (some_part : parts ≠ [])
    (made : concatenation t parts = .ok ds) : leavesAll ds = leavesAll parts := by
  unfold concatenation at made
  split at made
  · cases made
    rw [leavesAll_single, leaves_call _ some_part]
  · split at made
    · split at made
      · cases made
        simp [leavesAll, leaves]
      · cases made
    · cases made
      rfl
    · cases made

lemma logical_leaves (made : logical t parts = .ok d) : d.leaves = leavesAll parts := by
  cases parts with
  | nil => cases made
  | cons operand rest =>
    simp only [logical, head, first] at made
    split at made
    case _ single =>
      obtain rfl : rest = [] := List.eq_nil_of_length_eq_zero (Nat.succ.inj single)
      cases made
      split <;> split <;> simp [leaves, leavesAll]
    case _ more =>
      split at made
      · cases made
        rfl
      · split at made
        · cases made
          rfl
        · cases made

lemma unary_leaves (made : unary ts [d] = .ok ds) : leavesAll ds = d.leaves := by
  simp only [unary, head, first] at made
  split at made
  · split at made <;> cases made <;> rw [leavesAll_single]
    rw [leaves]
  · cases made
    exact leavesAll_single d

lemma stringFunction_leaves (some_part : parts ≠ []) (made : stringFunction t parts = .ok d) :
    d.leaves = leavesAll parts := by
  have called {name : String} {d : Draft}
      (made : Except.ok (.call (.member (.ident "PLGLOBALS") name) parts) = Except.ok (ε := Reject) d) :
      d.leaves = leavesAll parts := by
    cases made
    exact leaves_call _ some_part
  unfold stringFunction at made
  dsimp only at made
  split at made
  · exact called made
  split at made
  · exact called made
  split at made
  · exact called made
  split at made
  · exact called made
  · cases made

lemma relational_leaves (takes : parts.length = 1 ∨ parts.length = 3)
    (made : relational parts = .ok d) : d.leaves = leavesAll parts := by
  rcases takes with one | three
  · obtain ⟨d, rfl⟩ := List.length_eq_one_iff.1 one
    cases made
    exact (leavesAll_single d).symm
  · obtain ⟨left, sign, right, rfl⟩ := List.length_eq_three.1 three
    cases made
    rw [leaves, leavesAll, leavesAll, leavesAll_single]

lemma elementPart_leaves (takes : Takes t .generalElementPart parts)
    (made : elementPart t.children parts s = .ok (d, s')) : d.leaves = leavesAll parts := by
  obtain ⟨isCall, names, args, rfl, some_argument, bare, length⟩ := takes
  unfold elementPart at made
  rw [isCall, if_pos rfl, ← length, List.drop_left] at made
  simp only [bind, StateT.bind, Except.bind, get, getThe, MonadStateOf.get, StateT.get, pure,
    StateT.pure, Except.pure] at made
  split at made
  · cases made
  · cases made
    rw [leaves_call _ some_argument, leavesAll_append, bare, nil_append]

lemma assemble_leaves (expr : kind ∈ inner) (takes : Takes t kind parts)
    (made : assemble t kind parts s = .ok (ds, s')) : leavesAll ds = leavesAll parts := by
  fin_cases expr
  iterate 15
    · cases made
      rfl
  · obtain ⟨d, rfl, result⟩ := one_inv made
    exact (leavesAll_single d).trans (relational_leaves takes (lift_inv result).1)
  · obtain ⟨d, rfl, result⟩ := one_inv made
    exact (leavesAll_single d).trans (logical_leaves (lift_inv result).1)
  · exact concatenation_leaves takes (lift_inv made).1
  · obtain ⟨d, rfl⟩ := List.length_eq_one_iff.1 takes
    exact (unary_leaves (lift_inv made).1).trans (leavesAll_single d).symm
  · obtain ⟨d, rfl, result⟩ := one_inv made
    exact (leavesAll_single d).trans (stringFunction_leaves takes (lift_inv result).1)
  · obtain ⟨value, rfl⟩ := List.length_eq_one_iff.1 takes
    obtain ⟨d, rfl, result⟩ := one_inv made
    rw [element_single result]
  · obtain ⟨d, rfl, result⟩ := one_inv made
    exact (leavesAll_single d).trans (elementPart_leaves takes result)

def Operates (t : Tree Token) (kind : Nonterminal) (parts : List Draft) : Prop :=
  match kind with
  | .relationalExpression => parts.length = 3
  | .logicalExpression => 1 < parts.length ∨ parts.length = 1 ∧ (has t.children .NOT = true ∨
    (has t.children .IS && has t.children .NULL) = true)
  | .concatenation => 1 < parts.length
  | .unaryExpression => parts.length = 1 ∧ ∃ first rest, t.children = first :: rest ∧ first.text = "-"
  | .stringFunction => True
  | _ => False

end

/-- `Gathers source ts s ds ls s'`: expressions compile to drafts, and their literals and variables
are the leaves. -/
inductive Gathers (source : String) :
    List (Tree Token) → Scope → List Draft → List Draft → Scope → Prop where
  | nil : Gathers source [] s [] [] s
  | token (rest : Gathers source ts s ds ls s') : Gathers source (.leaf w :: ts) s ds ls s'
  /-- A comparison sign, or a part of a name. -/
  | word (is : kind ∈ [.relationalOperator, .idExpression])
      (compiled : compile source (.node kind us) s = .ok (es, s₁)) (bare : leavesAll es = [])
      (rest : Gathers source ts s₁ ds ls s') :
      Gathers source (.node kind us :: ts) s (es ++ ds) ls s'
  | literal (is : kind ∈ [.constant, .numeric, .quotedString])
      (compiled : compile source (.node kind us) s = .ok ([.cell d], s₁)) (single : d.leaves = [d])
      (rest : Gathers source ts s₁ ds ls s') :
      Gathers source (.node kind us :: ts) s (.cell d :: ds) (d :: ls) s'
  | reference (plain : hasPhrase us .functionArgument = false)
      (compiled : compile source (.node .generalElement [.node .generalElementPart us]) s =
        .ok ([.call callee []], s₁)) (rest : Gathers source ts s₁ ds ls s') :
      Gathers source (.node .generalElement [.node .generalElementPart us] :: ts) s
        (.call callee [] :: ds) (.call callee [] :: ls) s'
  | phrase (expression : kind ∈ inner) (all : Gathers source us s gs ks s₁)
      (takes : Takes (.node kind us) kind gs)
      (made : assemble (.node kind us) kind gs s₁ = .ok (es, s₂))
      (rest : Gathers source ts s₂ ds ls s') :
      Gathers source (.node kind us :: ts) s (es ++ ds) (ks ++ ls) s'

lemma Gathers.kept (gathers : Gathers src ts s ds ls s') :
    compileAll src ts s = .ok (ds, s') ∧ leavesAll ds = ls := by
  induction gathers with
  | nil => exact ⟨compileAll_nil, rfl⟩
  | token _ ih => exact ⟨compileAll_leaf.trans ih.1, ih.2⟩
  | word is comp bare _ ih =>
    exact ⟨compileAll_cons comp ih.1, by rw [leavesAll_append, bare, ih.2, nil_append]⟩
  | @literal _ _ _ d _ _ _ _ _ is comp single _ ih =>
    refine ⟨compileAll_cons comp ih.1, ?_⟩
    rw [leavesAll, ih.2, Draft.cell, leaves_call _ (cons_ne_nil d []), leavesAll_single, single]
    rfl
  | reference plain comp _ ih =>
    exact ⟨compileAll_cons comp ih.1, by rw [leavesAll, leaves, ih.2]; rfl⟩
  | phrase expr _ takes made _ within ih =>
    have ordinary : ∀ kind ∈ inner, kind ∉ special := by decide
    refine ⟨compileAll_cons (compile_of_parts within.1 made (ordinary _ expr)) ih.1, ?_⟩
    rw [leavesAll_append, assemble_leaves expr takes made, within.2, ih.2]

open Core (leafOf)

end Compile
end BlockScript
