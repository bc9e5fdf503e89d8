import BlockScript.Proofs.Core.Evaluation
import BlockScript.Proofs.NestedBlocks

/-!
Boolean expressions and three-valued logic. The connectives of the target give back one of their
operands: the left one if it decides as a condition does, for which the absent value is as good as
false, and else the right one.
-/

namespace BlockScript.Logic
open Compile Core Eval Run Target

abbrev Truth := Option Bool

namespace Truth

def both : Truth → Truth → Truth
  | some false, _ => some false
  | _, some false => some false
  | some true, some true => some true
  | _, _ => none

def either : Truth → Truth → Truth
  | some true, _ => some true
  | _, some true => some true
  | some false, some false => some false
  | _, _ => none

def opposite : Truth → Truth
  | some b => some !b
  | none => none

def content : Truth → Value
  | some b => .bool b
  | none => .null

lemma both_eq_iff (x y : Truth) :
    (if x = some true then y else x) = x.both y ↔ ¬ (x = none ∧ y = some false) := by
  rcases x with _ | _ | _ <;> rcases y with _ | _ | _ <;> decide

lemma either_eq_iff (x y : Truth) :
    (if x = some true then x else y) = x.either y ↔ ¬ (x = none ∧ y = some false) := by
  rcases x with _ | _ | _ <;> rcases y with _ | _ | _ <;> decide

lemma both_eq_true_iff (x y : Truth) : x.both y = some true ↔ x = some true ∧ y = some true := by
  rcases x with _ | _ | _ <;> rcases y with _ | _ | _ <;> decide

lemma either_eq_true_iff (x y : Truth) :
    x.either y = some true ↔ x = some true ∨ y = some true := by
  rcases x with _ | _ | _ <;> rcases y with _ | _ | _ <;> decide

end Truth

inductive Formula where
  | constant (value : Truth)
  | name (id : String)
  | both (left right : Formula)
  | either (left right : Formula)
  | negation (operand : Formula)
deriving DecidableEq

namespace Formula

def names : Formula → List String
  | constant _ => []
  | name id => [id]
  | both left right | either left right => left.names ++ right.names
  | negation operand => operand.names

def parts : Formula → List Formula
  | constant value => [constant value]
  | name id => [name id]
  | both left right => both left right :: (left.parts ++ right.parts)
  | either left right => either left right :: (left.parts ++ right.parts)
  | negation operand => negation operand :: operand.parts

def kleene (σ : String → Truth) : Formula → Truth
  | constant value => value
  | name id => σ id
  | both left right => (left.kleene σ).both (right.kleene σ)
  | either left right => (left.kleene σ).either (right.kleene σ)
  | negation operand => (operand.kleene σ).opposite

def chosen (σ : String → Truth) : Formula → Truth
  | constant value => value
  | name id => σ id
  | both left right => if left.chosen σ = some true then right.chosen σ else left.chosen σ
  | either left right => if left.chosen σ = some true then left.chosen σ else right.chosen σ
  | negation operand => (operand.chosen σ).opposite

def IsClear (σ : String → Truth) : Formula → Prop
  | both left right | either left right => ¬ (left.kleene σ = none ∧ right.kleene σ = some false)
  | constant _ | name _ | negation _ => True

instance (σ : String → Truth) : DecidablePred (IsClear σ)
  | both .. | either .. => inferInstanceAs (Decidable (¬ _))
  | constant _ | name _ | negation _ => inferInstanceAs (Decidable True)

section

variable {e : Formula}

lemma self_mem_parts (e : Formula) : e ∈ e.parts := by
  cases e <;> exact mem_cons_self

/-- All parts of a formula have their values by the tables exactly if no connective among them
stands between the absent value and false. -/
lemma chosen_eq_kleene_iff :
    (∀ f ∈ e.parts, f.chosen σ = f.kleene σ) ↔ ∀ f ∈ e.parts, f.IsClear σ := by
  induction e with
  | constant value | name id => simp [parts, chosen, kleene, IsClear]
  | both left right ihl ihr | either left right ihl ihr =>
    rw [parts, forall_mem_cons, forall_mem_append, forall_mem_cons, forall_mem_append, ← ihl, ← ihr]
    refine and_congr_left fun ⟨inLeft, inRight⟩ => ?_
    rw [chosen, kleene, inLeft left left.self_mem_parts, inRight right right.self_mem_parts, IsClear]
    first | exact Truth.both_eq_iff _ _ | exact Truth.either_eq_iff _ _
  | negation operand ih =>
    rw [parts, forall_mem_cons, forall_mem_cons, ← ih]
    refine and_congr_left fun inside => ?_
    rw [chosen, kleene, inside operand operand.self_mem_parts, IsClear, eq_self]

def NegatesClear (σ : String → Truth) : Formula → Prop
  | negation operand => operand.chosen σ = operand.kleene σ
  | constant _ | name _ | both .. | either .. => True

lemma chosen_true_iff (negated : ∀ f ∈ e.parts, f.NegatesClear σ) :
    e.chosen σ = some true ↔ e.kleene σ = some true := by
  induction e with
  | constant | name => exact Iff.rfl
  | both left right ihl ihr | either left right ihl ihr =>
    rw [parts, forall_mem_cons, forall_mem_append] at negated
    obtain ⟨-, inLeft, inRight⟩ := negated
    rw [kleene]
    first | rw [Truth.both_eq_true_iff] | rw [Truth.either_eq_true_iff]
    rw [← ihl inLeft, ← ihr inRight, chosen]
    split <;> simp_all
  | negation operand ih =>
    rw [parts, forall_mem_cons] at negated
    have here : operand.chosen σ = operand.kleene σ := negated.1
    rw [chosen, kleene, here]

end

def draft : Formula → Draft
  | constant (some b) => .cell (.constant (.bool b))
  | constant none => .cell (.call (.ident "NULL") [])
  | name id => .call (.ident id) []
  | both left right => .connect .both [left.draft, right.draft]
  | either left right => .connect .either [left.draft, right.draft]
  | negation operand => .call (.ident "NOT") [operand.draft]

def target : Formula → Expr
  | constant (some b) => .call (.name "m") [.constant (.bool b)]
  | constant none => .call (.name "m") [.call (.name "NULL") []]
  | name id => .call (.name id) []
  | both left right => .connect .both [left.target, right.target]
  | either left right => .connect .either [left.target, right.target]
  | negation operand => .call (.name "NOT") [operand.target]

attribute [local simp] draft target toExpr toExprs

lemma toExpr_draft {e : Formula} (plain : ∀ id ∈ e.names, IsPlain id) :
    toExpr e.draft = some e.target := by
  have null : IsPlain "NULL" := by decide
  induction e with
  | constant value =>
    cases value <;> simp [Draft.cell, toExpr_ident isPlain_helper.1, toExpr_ident null]
  | name id => simp [toExpr_ident (plain id (by simp [names]))]
  | both left right ihl ihr | either left right ihl ihr =>
    simp only [names, mem_append, or_imp, forall_and] at plain
    simp [ihl plain.1, ihr plain.2]
  | negation operand ih =>
    simp [toExpr_ident isPlain_helper.2.1, ih plain]

end Formula

def constants : List (Terminal × String × Truth) :=
  [(.TRUE, "TRUE", some true), (.FALSE, "FALSE", some false), (.NULL, "NULL", none)]

inductive SpellsFormula : Tree Token → Formula → Prop where
  | rung (known : kind ∈ rungs) (inner : SpellsFormula t e) : SpellsFormula (.node kind [t]) e
  | parentheses (opening : IsLeaf .LEFT_PAREN l) (inner : SpellsFormula t e)
      (closing : IsLeaf .RIGHT_PAREN r) : SpellsFormula (.node .atom [l, t, r]) e
  | constant (token : Token) (word : (token.kind, token.text.toUpper, value) ∈ constants) :
      SpellsFormula (.node .constant [.leaf token]) (.constant value)
  | name (reference : SpellsReference t x) : SpellsFormula t (.name x)
  | both (left : SpellsFormula l e) (word : IsLeaf .AND w) (right : SpellsFormula r f) :
      SpellsFormula (.node .logicalExpression [l, w, r]) (.both e f)
  | either (left : SpellsFormula l e) (word : IsLeaf .OR w) (right : SpellsFormula r f) :
      SpellsFormula (.node .logicalExpression [l, w, r]) (.either e f)
  | negation (word : IsLeaf .NOT w) (operand : SpellsFormula t e) :
      SpellsFormula (.node .logicalExpression [w, t]) (.negation e)

section

variable {src : String}

lemma SpellsFormula.isOperand (spelled : SpellsFormula t e) : IsOperand t := by
  induction spelled with
  | rung known inner ih => exact ih.within [] []
  | parentheses opening inner closing ih => exact ih.within [_] [_]
  | constant token word =>
    have text : (Tree.node .constant [.leaf token]).text = token.text := by
      simp [Tree.text_leaf]
    have long : ∀ entry ∈ constants, entry.2.1 ≠ "" ∧ entry.2.1 ≠ "-" := by decide
    obtain ⟨some_text, no_sign⟩ := long _ word
    refine IsOperand.of_text rfl ?_ ?_ <;> rw [text] <;> rintro same
    · exact some_text (by rw [same]; with_unfolding_all rfl)
    · exact no_sign (by rw [same]; with_unfolding_all rfl)
  | name ref => exact ref.isOperand
  | both left word right ihl ihr | either left word right ihl ihr => exact ihl.within [] [_, _]
  | negation word operand ih => exact ih.within [_] []

lemma compile_constant (word : (token.kind, token.text.toUpper, value) ∈ constants) :
    compile src (.node .constant [.leaf token]) s = .ok ([(Formula.constant value).draft], s) := by
  simp only [constants, mem_cons, Prod.mk.injEq, not_mem_nil, or_false] at word
  rw [compile]
  rcases word with ⟨kind, -, rfl⟩ | ⟨kind, -, rfl⟩ | ⟨kind, -, rfl⟩ <;>
  · simp only [wordConstant?, has, kind, List.any_cons]
    rfl

lemma compile_formula (spelled : SpellsFormula t e) (decl : Declares s e.names) :
    compile src t s = .ok ([e.draft], s) := by
  induction spelled with
  | rung known inner ih => exact compile_rung known inner.isOperand (ih decl)
  | parentheses opening inner closing ih => exact compile_parentheses opening closing (ih decl)
  | constant token word => exact compile_constant word
  | name ref => exact compile_reference ref (decl _ mem_cons_self)
  | both left word right ihl ihr | either left word right ihl ihr =>
    obtain ⟨inLeft, inRight⟩ := forall_mem_append.1 decl
    exact compile_connected left.isOperand right.isOperand _ word (ihl inLeft) (ihr inRight)
  | negation word operand ih => exact compile_negated operand.isOperand word (ih decl)

end

/-- The names of a formula stand for cells with truth values, and those of the library for what the
library has under them. -/
structure Holds (place : Run.Place) (σ : String → Truth) (names : List String) (m : Machine) :
    Prop where
  wrap : place.Sees m "m" (.routine .wrap)
  negate : place.Sees m "NOT" (.routine .negate)
  null : place.Sees m "NULL" (.library .null)
  cell : ∀ id ∈ names, ∃ a, place.Sees m id (.object a) ∧
    m.store.get? a = some (.cell (σ id).content)

section

variable {e : Formula} {names : List String}

lemma Holds.grows (holds : Holds place σ names m) (grows : m.Grows m') :
    Holds place σ names m' where
  wrap := holds.wrap.grows grows
  negate := holds.negate.grows grows
  null := holds.null.grows grows
  cell id member := by
    obtain ⟨a, sees, found⟩ := holds.cell id member
    exact ⟨a, sees.grows grows, grows.kept a _ found⟩

lemma Holds.narrow (holds : Holds place σ names m) (part : fewer ⊆ names) : Holds place σ fewer m :=
  { holds with cell := fun id mem => holds.cell id (part mem) }

lemma contentTruth_content (x : Truth) (m) : contentTruth x.content m = .ok (x = some true) m := by
  rcases x with _ | _ | _ <;> rfl

lemma negate_content {x : Truth} (found : m.store.get? a = some (.cell x.content)) :
    Query.negate (.object a) m =
      .ok (.object m.store.size) (m.push (.cell x.opposite.content)) := by
  cases x with
  | some b => exact negate_cell found
  | none =>
    exact bind_ok (unwrap_cell found)

def Formula.cost : Formula → Nat
  | constant _ => 6
  | name _ => 3
  | both left right | either left right => max left.cost right.cost + 3
  | negation operand => operand.cost + 3

lemma settles_null (sees : place.Sees m "NULL" (.library .null)) :
    Settles (3 ≤ steps) (evaluate place steps (.call (.name "NULL") []) m) fun v m' =>
      v = .null ∧ m' = m :=
  settles_bare sees nofun fun _ => rfl

lemma settles_constant (holds : Holds place σ names m) (value : Truth) :
    Settles (6 ≤ steps) (evaluate place steps (Formula.constant value).target m)
      (Gives value.content m) := by
  cases value with
  | some b => exact gives_wrapped holds.wrap (settles_literal (.bool b) (by omega)) rfl
  | none => exact gives_wrapped holds.wrap (settles_null holds.null) rfl

lemma settles_formula (holds : Holds place σ e.names m) :
    Settles (e.cost ≤ steps) (evaluate place steps e.target m) (Gives (e.chosen σ).content m) := by
  induction e generalizing steps m with
  | constant value => exact settles_constant holds value
  | name id =>
    obtain ⟨a, sees, found⟩ := holds.cell id mem_cons_self
    refine (settles_reference sees found).mono ?_
    rintro _ _ ⟨rfl, rfl⟩
    exact ⟨.refl _, a, rfl, found⟩
  | both left right ihl ihr | either left right ihl ihr =>
    have inLeft := holds.narrow (List.subset_append_left left.names right.names)
    have inRight := holds.narrow (List.subset_append_right left.names right.names)
    have connected (op) := settles_connect steps op (contentTruth_content (left.chosen σ))
      (ihl inLeft) fun grows => ihr (inRight.grows grows)
    rw [Formula.chosen, Formula.target, Formula.cost]
    by_cases decided : left.chosen σ = some true <;>
      first | simpa [decided] using connected .both | simpa [decided] using connected .either
  | negation operand ih => exact settles_negated steps holds.negate (ih holds) negate_content

lemma execute_branch (holds : Holds place σ e.names m) (granted : e.cost ≤ steps)
    (yes no : List Stmt) :
    ∃ m', m.Grows m' ∧ execute place (steps + 1) (.branch e.target yes no) m =
      executeAll place steps (if e.chosen σ = some true then yes else no) m' := by
  obtain ⟨_, m', ended, grows, a, rfl, found⟩ := (settles_formula holds).ends granted
  refine ⟨m', grows, ?_⟩
  refine (bind_ok ended).trans ?_
  refine (bind_ok (truth_content found (contentTruth_content (e.chosen σ) m'))).trans ?_
  by_cases decided : e.chosen σ = some true <;> simp [decided]

end

inductive IsAlternative : List (Tree Token) → List (Tree Token) → Prop where
  | none : IsAlternative [] []
  | otherwise (word : IsLeaf .ELSE w) (sequence : IsSequence ts statements) :
      IsAlternative [.node .elsePart [w, .node .seqOfStatements ts]] statements

/-- `IsBranch b t yes no`: the tree `b` is a branch on `t` between two sequences of statements. -/
inductive IsBranch : Tree Token → Tree Token → List (Tree Token) → List (Tree Token) → Prop where
  | mk (if_ : IsLeaf .IF i) (then_ : IsLeaf .THEN w) (sequence : IsSequence bs yes)
      (alternative : IsAlternative os no) (end_ : IsLeaf .END e) (endIf : IsLeaf .IF f) :
      IsBranch
        (.node .ifStatement
          (i :: .node .condition [t] :: w :: .node .seqOfStatements bs :: (os ++ [e, f])))
        t yes no

lemma isUnmarked_formula (e : Formula) : IsUnmarked e.draft := by
  rcases e with (_ | _) | _ | _ | _ | _ <;> exact ⟨nofun, nofun⟩

lemma isUnmarked_statements (seq : IsSequence ts yes)
    (comp : compileAll src yes s = .ok (ys, s1)) : ∀ part ∈ ys, IsUnmarked part := by
  intro part mem
  obtain ⟨p, rfl⟩ := (seq.exprs comp).2 part mem
  exact ⟨nofun, nofun⟩

lemma compileAll_alternative (alt : IsAlternative os no)
    (comp : compileAll src no s = .ok (ns, s1)) :
    ∃ parts latest, compileAll src os s = .ok (parts, s1) ∧
      parts.reverse.foldlM Chain.step {} = .ok ⟨[], ns, latest⟩ := by
  cases alt with
  | none =>
    cases compileAll_nil.symm.trans comp
    exact ⟨[], .missing, compileAll_nil, rfl⟩
  | otherwise word seq =>
    refine ⟨.elseMark :: ns, .elseMark, ?_, else_parts (isUnmarked_statements seq comp)⟩
    apply compileAll_single
    apply compile_ordinary (by decide)
    · rw [word.skip]
      exact compileAll_single (compile_sequence ((seq.compiled s).trans comp))
    · rfl

lemma compile_branch (is : IsBranch b t yes no) (spelled : SpellsFormula t e)
    (decl : Declares s e.names) (first : compileAll src yes s = .ok (ys, s1))
    (second : compileAll src no s1 = .ok (ns, s2)) :
    compile src b s = .ok ([.branch e.draft ys ns], s2) := by
  obtain ⟨if_, then_, seq, alt, end_, endIf⟩ := is
  obtain ⟨parts, latest, comp, gathered⟩ := compileAll_alternative alt second
  have tail := compileAll_append comp
    ((end_.skip.trans (endIf.skip.trans compileAll_nil)) : compileAll src _ s2 = .ok ([], s2))
  rw [append_nil] at tail
  apply compile_ordinary (by decide)
  · rw [if_.skip]
    apply compileAll_cons
      (compile_rung (by decide) spelled.isOperand (compile_formula spelled decl))
    rw [then_.skip]
    exact compileAll_cons (compile_sequence ((seq.compiled s).trans first)) tail
  · have made := branch_parts (isUnmarked_formula e) (isUnmarked_statements seq first) gathered
    rw [assemble, List.singleton_append, ← cons_append, made]
    rfl

/-- A formula is compiled to an expression of the target, and a branch on it to a branch. Where its
names stand for cells with truth values, the expression always gives a cell, with the value that the
connectives choose, and the branch goes on with its first statements exactly if that value is true.
All parts of the formula have their values by Kleene's tables exactly if no connective among them
stands between the absent value and false; and as long as only such values are negated, the branch
takes its first statements exactly if the formula is true by the tables. -/
theorem formula_decides {source : String} {t : Tree Token} {e : Formula} {s : Scope}
    (spelled : SpellsFormula t e) (declares : Declares s e.names)
    (plain : ∀ x ∈ e.names, IsPlain x) :
    (compile source t s = .ok ([e.draft], s) ∧ toExpr e.draft = some e.target) ∧
    (∀ {b yes no ys ns s₁ s₂ first second}, IsBranch b t yes no →
      compileAll source yes s = .ok (ys, s₁) → compileAll source no s₁ = .ok (ns, s₂) →
      toBody .nothing ys = some first →
      (ns = [] ∧ second = [] ∨ toBody .nothing ns = some second) →
      compile source b s = .ok ([.branch e.draft ys ns], s₂) ∧
        toStmts (.branch e.draft ys ns) = some [.branch e.target first second]) ∧
    ∀ place σ m, Holds place σ e.names m →
      (∀ steps, Settles (e.cost ≤ steps) (evaluate place steps e.target m)
        (Gives (e.chosen σ).content m)) ∧
      (∀ steps first second, e.cost ≤ steps →
        ∃ m', m.Grows m' ∧ execute place (steps + 1) (.branch e.target first second) m =
          executeAll place steps (if e.chosen σ = some true then first else second) m') ∧
      ((∀ f ∈ e.parts, f.chosen σ = f.kleene σ) ↔ ∀ f ∈ e.parts, f.IsClear σ) ∧
      ((∀ f ∈ e.parts, f.NegatesClear σ) → (e.chosen σ = some true ↔ e.kleene σ = some true)) := by
  have compiled := @compile_formula source t e s spelled declares
  have written := Formula.toExpr_draft plain
  refine ⟨⟨compiled, written⟩, ?_, ?_⟩
  · intro b yes no ys ns s₁ s₂ first second is left right lines others
    exact ⟨compile_branch is spelled declares left right, toStmts_branch written lines others⟩
  · intro place σ m holds
    exact ⟨fun _ => settles_formula holds, fun _ first second granted =>
      execute_branch holds granted first second, Formula.chosen_eq_kleene_iff,
      Formula.chosen_true_iff⟩

def constantTree (kind : Terminal) (word : String) : Tree Token :=
  climb ([.logicalExpression, .multisetExpression] ++ sideRungs)
    (.node .constant [leafOf kind word])

def refusalTree (left right : Tree Token) : Tree Token :=
  .node .logicalExpression
    [leafOf .NOT "not",
      climb ([.logicalExpression, .multisetExpression, .relationalExpression, .compoundExpression,
          .concatenation, .modelExpression, .unaryExpression])
        (.node .atom
          [leafOf .LEFT_PAREN "(",
            climb [.expressions, .expression]
              (.node .logicalExpression [left, leafOf .AND "and", right]),
            leafOf .RIGHT_PAREN ")"])]

lemma spells_climb (known : ∀ kind ∈ kinds, kind ∈ rungs) (spelled : SpellsFormula t e) :
    SpellsFormula (climb kinds t) e :=
  climb_of_rungs (P := (SpellsFormula · e)) known spelled .rung

lemma spells_refusal (first : SpellsFormula left e) (second : SpellsFormula right f) :
    SpellsFormula (refusalTree left right) (.negation (.both e f)) :=
  .negation ⟨_, rfl⟩ (spells_climb (by decide)
    (.parentheses ⟨_, rfl⟩ (spells_climb (by decide) (.both first ⟨_, rfl⟩ second)) ⟨_, rfl⟩))

lemma spells_constant (known : (kind, word.toUpper, value) ∈ constants) :
    SpellsFormula (constantTree kind word) (.constant value) :=
  spells_climb (by decide) (.constant _ known)

lemma spells_false : SpellsFormula (constantTree .FALSE "false") (.constant (some false)) :=
  spells_constant (by rw [show "false".toUpper = "FALSE" by decide +kernel]; decide)

lemma spells_null : SpellsFormula (constantTree .NULL "null") (.constant none) :=
  spells_constant (by rw [show "null".toUpper = "NULL" by decide +kernel]; decide)

def falseMachine : Machine where
  store := ⟨#[.cell (.bool false)]⟩
  globals := [("m", .routine .wrap), ("NOT", .routine .negate), ("NULL", .library .null),
    ("B", .object 0)]

lemma holds_false : Holds {} (fun _ => some false) ["B"] falseMachine where
  wrap := ⟨rfl, [], none, .program, rfl⟩
  negate := ⟨rfl, [], none, .program, rfl⟩
  null := ⟨rfl, [], none, .program, rfl⟩
  cell x member := by
    cases mem_singleton.1 member
    exact ⟨0, ⟨rfl, [], none, .program, rfl⟩, rfl⟩

/-- With a variable that is false, `not (b and null)` is true. -/
theorem false_refused :
    ∃ e, SpellsFormula (refusalTree (climb sideRungs (referenceTree "b"))
        (constantTree .NULL "null")) e ∧
      Holds {} (fun _ => some false) e.names falseMachine ∧
      (∀ f ∈ e.parts, f.IsClear fun _ => some false) ∧ e.kleene (fun _ => some false) = some true ∧
      ∀ yes no, ∃ m', falseMachine.Grows m' ∧
        execute {} (e.cost + 1) (.branch e.target yes no) falseMachine =
          executeAll {} e.cost yes m' := by
  have name : SpellsName (nameTree "b") "B" :=
    spells_name (by decide +kernel) ⟨'B', [], by decide, by decide, by decide⟩
  have operand : SpellsFormula (climb sideRungs (referenceTree "b")) (.name "B") :=
    spells_climb (by decide) (.name (.mk name))
  have spelled := spells_refusal operand spells_null
  have declares : Declares { declared := ["B"] } ["B"] := fun _ member => member
  obtain ⟨-, -, decides⟩ := @formula_decides "" _ _ _ spelled declares (by decide)
  obtain ⟨-, branch, -, -⟩ := decides {} (fun _ => some false) falseMachine holds_false
  refine ⟨_, spelled, holds_false, ?_, rfl, fun yes no => branch _ yes no (Nat.le_refl _)⟩
  decide

/-- Everywhere `not (null and false)` is absent, though it is true by the tables, and a branch on it
goes on with its second statements. -/
theorem absence_not_refused :
    ∃ e, SpellsFormula (refusalTree (constantTree .NULL "null") (constantTree .FALSE "false")) e ∧
      (∀ σ, e.kleene σ = some true) ∧
      ∀ place σ m, Holds place σ e.names m →
        (∃ v m', evaluate place e.cost e.target m = .ok v m' ∧ Gives .null m v m') ∧
        ∀ yes no, ∃ m', m.Grows m' ∧
          execute place (e.cost + 1) (.branch e.target yes no) m =
            executeAll place e.cost no m' := by
  refine ⟨_, spells_refusal spells_null spells_false, fun _ => rfl, fun place σ m holds => ?_⟩
  exact ⟨(settles_formula holds).ends (Nat.le_refl _),
    fun yes no => execute_branch holds (Nat.le_refl _) yes no⟩

end BlockScript.Logic
