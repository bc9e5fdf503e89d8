import Mathlib
import BlockScript.Compile

/-!
How phrases are compiled. Most phrases are compiled part by part and then assembled; a list of trees
compiles to what its trees compile to, one behind the other, with the scope handed on.
-/

namespace BlockScript

export List (Forall₂)

namespace Tree

lemma leavesAll_eq_flatMap (ts : List (Tree Token)) : leavesAll ts = ts.flatMap leaves := by
  induction ts with
  | nil => rfl
  | cons t ts ih => rw [leavesAll, ih, flatMap_cons]

lemma text_leaf (token : Token) : (Tree.leaf token).text = token.text := by
  simp [text, leaves]

lemma text_node (kind ts) : (Tree.node kind ts).text = String.join (ts.map text) := by
  rw [text, leaves, leavesAll_eq_flatMap]
  induction ts with
  | nil => rfl
  | cons t ts ih =>
    rw [flatMap_cons, map_append, String.join_append, ih, map_cons, String.join_cons]
    rfl

@[simp]
lemma text_single (kind t) : (Tree.node kind [t]).text = t.text := by
  simp [text_node]

@[simp]
lemma capitals_single (kind t) : (Tree.node kind [t]).capitals = t.capitals := by
  simp [capitals]

end Tree

inductive IsLeaf (kind : Terminal) : Tree Token → Prop where
  | mk (token : Token) (is : token.kind = kind) : IsLeaf kind (.leaf token)

namespace Compile

def special : List Nonterminal :=
  [.functionSpec, .procedureSpec, .fieldSpec, .nullStatement, .regularId, .numeric, .quotedString,
    .relationalOperator, .typeName, .transactionControlStatements, .pragmaDeclaration,
    .dataManipulationLanguageStatements, .selectStatement, .constant, .typeSpec, .executeImmediate,
    .cursorLoopParam, .cursorDeclaration, .procedureBody, .functionBody, .createProcedureBody,
    .createFunctionBody, .createPackage, .createPackageBody, .sqlScript]

section

variable {children : List (Tree Token)}

@[simp]
lemma has_nil : has [] terminal = false := rfl

@[simp]
lemma has_leaf : has (.leaf token :: ts) terminal = (token.kind == terminal || has ts terminal) :=
  rfl

@[simp]
lemma has_node : has (.node kind children :: ts) terminal = has ts terminal := by
  simp [has]

@[simp]
lemma hasPhrase_nil : hasPhrase [] nonterminal = false := rfl

@[simp]
lemma hasPhrase_leaf : hasPhrase (.leaf token :: ts) nonterminal = hasPhrase ts nonterminal := by
  simp [hasPhrase, Tree.kind?]

@[simp]
lemma hasPhrase_node : hasPhrase (.node kind children :: ts) nonterminal =
    (kind == nonterminal || hasPhrase ts nonterminal) := by
  simp [hasPhrase, Tree.kind?]

end

variable {children : List (Tree Token)}

-- as simp lemmas, the equations of both are derived once for all proofs that unfold them
attribute [local simp] assemble compile

lemma compile_node (ordinary : kind ∉ special) :
    compile src (.node kind children) = (do
      assemble (.node kind children) kind (← compileAll src children)) := by
  rw [compile] <;>
  · rintro rfl
    exact ordinary (by decide)

lemma compile_ordinary (ordinary : kind ∉ special)
    (parts : compileAll src children s = .ok (ds, s1))
    (whole : assemble (.node kind children) kind ds s1 = .ok (es, s2)) :
    compile src (.node kind children) s = .ok (es, s2) := by
  rw [compile_node ordinary]
  simp only [bind, StateT.bind, parts]
  exact whole

lemma compile_of_parts (parts : compileAll src children s = .ok (ds, s1))
    (whole : assemble (.node kind children) kind ds s1 = .ok (es, s2))
    (ordinary : kind ∉ special := by decide) :
    compile src (.node kind children) s = .ok (es, s2) := compile_ordinary ordinary parts whole

@[simp]
lemma compileAll_nil : compileAll src [] s = .ok ([], s) := by
  rw [compileAll]
  rfl

lemma compileAll_cons (first : compile src t s = .ok (ds, s1))
    (rest : compileAll src ts s1 = .ok (es, s2)) :
    compileAll src (t :: ts) s = .ok (ds ++ es, s2) := by
  rw [compileAll]
  simp only [bind, StateT.bind, first, Except.bind, rest]
  rfl

lemma compileAll_single (only : compile src t s = .ok (ds, s1)) :
    compileAll src [t] s = .ok (ds, s1) := by
  have both := compileAll_cons only compileAll_nil
  rwa [append_nil] at both

@[simp]
lemma compileAll_leaf : compileAll src (.leaf token :: ts) s = compileAll src ts s := by
  rw [compileAll]
  simp [bind, StateT.bind, pure, StateT.pure, Except.pure, Except.bind]
  rcases compileAll src ts s with reason | ⟨parts, scope⟩ <;> rfl

lemma compile_statement (inner : compile src t s = .ok ([d], s1)) :
    compile src (.node .statement [t]) s = .ok ([.expr d], s1) :=
  compile_of_parts (compileAll_single inner) rfl

lemma compile_sequence (inner : compileAll src ts s = .ok (ds, s1)) :
    compile src (.node .seqOfStatements ts) s = .ok (ds, s1) :=
  compile_of_parts inner rfl

lemma steps_of_bind {f : α → Except Reject β} (bound : x >>= f = .ok b) :
    ∃ a, x = .ok a ∧ f a = .ok b := by
  rcases x with reason | a
  · cases bound
  · exact ⟨a, rfl, bound⟩

lemma first_inv (split : first ds = .ok (d, es)) : ds = d :: es := by
  cases ds with
  | nil => cases split
  | cons d ds =>
    cases split
    rfl

lemma parts_of_compile (comp : compile src (.node kind children) s = .ok (es, s2))
    (ordinary : kind ∉ special := by decide) :
    ∃ ds s1, compileAll src children s = .ok (ds, s1) ∧
      assemble (.node kind children) kind ds s1 = .ok (es, s2) := by
  rw [compile_node ordinary] at comp
  simp only [bind, StateT.bind] at comp
  rcases parts : compileAll src children s with reason | ⟨ds, s1⟩
  · rw [parts] at comp
    cases comp
  · rw [parts] at comp
    exact ⟨ds, s1, rfl, comp⟩

lemma compileAll_cons_inv (comp : compileAll src (t :: ts) s = .ok (ds, s2)) :
    ∃ first rest s1, compile src t s = .ok (first, s1) ∧
      compileAll src ts s1 = .ok (rest, s2) ∧ ds = first ++ rest := by
  rw [compileAll] at comp
  simp only [bind, StateT.bind] at comp
  rcases here : compile src t s with reason | ⟨first, s1⟩
  · rw [here] at comp
    cases comp
  · rw [here] at comp
    simp only [Except.bind] at comp
    rcases later : compileAll src ts s1 with reason | ⟨rest, last⟩
    · grind
    · rw [later] at comp
      cases comp
      exact ⟨first, rest, s1, rfl, later, rfl⟩

lemma compileAll_single_inv (comp : compileAll src [t] s = .ok (ds, s1)) :
    compile src t s = .ok (ds, s1) := by
  obtain ⟨own, none, _, only, rest, rfl⟩ := compileAll_cons_inv comp
  simp_all

lemma compileAll_append (first : compileAll src ts s = .ok (ds, s1))
    (rest : compileAll src us s1 = .ok (es, s2)) :
    compileAll src (ts ++ us) s = .ok (ds ++ es, s2) := by
  induction ts generalizing s ds with
  | nil => simp_all
  | cons t ts ih =>
    obtain ⟨here, later, scope, comp, others, rfl⟩ := compileAll_cons_inv first
    rw [append_assoc]
    exact compileAll_cons comp (ih others)

lemma compileAll_append_inv (comp : compileAll src (ts ++ us) s = .ok (ds, s2)) :
    ∃ first rest s1, compileAll src ts s = .ok (first, s1) ∧
      compileAll src us s1 = .ok (rest, s2) ∧ ds = first ++ rest := by
  induction ts generalizing s ds with
  | nil => exact ⟨[], ds, s, compileAll_nil, comp, rfl⟩
  | cons t ts ih =>
    obtain ⟨here, later, scope, head, others, rfl⟩ := compileAll_cons_inv comp
    obtain ⟨first, rest, s1, front, back, rfl⟩ := ih others
    exact ⟨here ++ first, rest, s1, compileAll_cons head front, back, by rw [append_assoc]⟩

end Compile

lemma IsLeaf.skip (leaf : IsLeaf kind t) :
    Compile.compileAll src (t :: ts) s = Compile.compileAll src ts s := by
  obtain ⟨token, is⟩ := leaf
  exact Compile.compileAll_leaf

end BlockScript
