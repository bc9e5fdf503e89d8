import BlockScript.Proofs.Core.Preservation
import BlockScript.Proofs.ThreeValuedLogic

/-!
Texts of scalars. A concatenation shows what a cell holds, whatever it is, and a chain of operands,
however it is grouped, comes to their texts one behind the other. Printing a cell itself shows texts
only.
-/

namespace BlockScript.Texts
open Eval Library

inductive Datum where
  | text (s : String)
  | int (n : Int)
  | null

namespace Datum

def content : Datum → Value
  | text s => .text s
  | int n => .int n
  | null => .null

def shown : Datum → String
  | text s => s
  | int n => toString n
  | null => ""

lemma text_content (x : Datum) (m) : Eval.text x.content m = .ok x.shown m := by
  cases x <;> rfl

end Datum

lemma concat_cells {x y : Datum} (left : m.store.get? a = some (.cell x.content))
    (right : m.store.get? b = some (.cell y.content)) :
    apply .concat [.object a, .object b] m =
      .ok (.object m.store.size) (m.push (.cell (.text (x.shown ++ y.shown)))) := by
  refine (bind_ok (unwrap_cell left)).trans ((bind_ok (unwrap_cell right)).trans ?_)
  exact (bind_ok (x.text_content m)).trans (bind_ok (y.text_content m))

lemma putLine_text (held : m.store.get? a = some (.cell (.text s))) :
    apply .putLine [.object a] m = .ok .none { m with printed := m.printed ++ [s] } := by
  have shown : Eval.text (.object a) m = .ok s m := by
    change ofExcept (Show.text m.store (.object a)) m = _
    simp only [Show.text, held]
    rfl
  exact bind_ok shown

lemma putLine_other {x : Datum} (held : m.store.get? a = some (.cell x.content))
    (other : ∀ s, x ≠ .text s) :
    apply .putLine [.object a] m = .error (.failed .unsuited) m := by
  have refused : Eval.text (.object a) m = .error (.failed .unsuited) m := by
    change ofExcept (Show.text m.store (.object a)) m = _
    cases x with
    | text s => exact absurd rfl (other s)
    | int n | null =>
      simp only [Show.text, held]
      rfl
  exact bind_error refused

/-- Behind a concatenation with the empty text every scalar is printed as it is shown. A cell that
is printed itself gives the same line if it holds a text, and nothing but a failure else. -/
theorem cell_printed_iff_text {m : Machine} {a b : Address} {x : Datum}
    (held : m.store.get? a = some (.cell x.content))
    (empty : m.store.get? b = some (.cell (.text ""))) :
    ∃ c m₁ m₂, Library.apply .concat [.object a, .object b] m = .ok (.object c) m₁ ∧
      Library.apply .putLine [.object c] m₁ = .ok .none m₂ ∧ m₂.printed = m.printed ++ [x.shown] ∧
      ((∃ m', Library.apply .putLine [.object a] m = .ok .none m' ∧ m'.printed = m₂.printed) ↔
        ∃ s, x = .text s) ∧
      ((∀ s, x ≠ .text s) → Library.apply .putLine [.object a] m = .error (.failed .unsuited) m) := by
  have joined := concat_cells (y := .text "") held empty
  have printed := putLine_text (m.get?_push_size (.cell (.text (x.shown ++ ""))))
  have line : x.shown ++ "" = x.shown := String.append_empty
  refine ⟨_, _, _, joined, printed, by rw [line]; rfl, ⟨?_, ?_⟩, putLine_other held⟩
  · rintro ⟨m', ran, -⟩
    refine Classical.byContradiction fun other => ?_
    rw [putLine_other held fun s is => other ⟨s, is⟩] at ran
    cases ran
  · rintro ⟨s, rfl⟩
    exact ⟨_, putLine_text held, by rw [line]; rfl⟩

def scalarMachine (v : Value) : Machine where
  store := ⟨#[.cell v, .cell (.text "")]⟩

theorem two_lines_printed :
    (scalarMachine (.text "a\nb")).store.get? 0 = some (.cell (Datum.text "a\nb").content) ∧
      ∃ m', Library.apply .putLine [.object 0] (scalarMachine (.text "a\nb")) = .ok .none m' ∧
        m'.printed = ["a\nb"] := by
  refine ⟨rfl, ?_⟩
  obtain ⟨c, m₁, m₂, -, -, line, agrees, -⟩ :=
    @cell_printed_iff_text (scalarMachine (.text "a\nb")) 0 1 (.text "a\nb") rfl rfl
  obtain ⟨m', ran, same⟩ := agrees.2 ⟨_, rfl⟩
  exact ⟨m', ran, same.trans line⟩

theorem number_not_printed :
    Library.apply .putLine [.object 0] (scalarMachine (.int 5)) =
        .error (.failed .unsuited) (scalarMachine (.int 5)) ∧
      ∃ c m₁ m₂, Library.apply .concat [.object 0, .object 1] (scalarMachine (.int 5)) =
        .ok (.object c) m₁ ∧ Library.apply .putLine [.object c] m₁ = .ok .none m₂ ∧
        m₂.printed = ["5"] :=
  ⟨putLine_other (x := .int 5) rfl (by simp), _, _, _,
    concat_cells (x := .int 5) (y := .text "") rfl rfl, putLine_text (Machine.get?_push_size _ _),
    by decide⟩

open Compile Core Run Target

namespace Datum

def isNull : Datum → Bool
  | text s => s == ""
  | int _ => false
  | null => true

lemma shown_eq_empty_iff (x : Datum) : x.shown = "" ↔ x.isNull = true := by
  cases x with
  | int n =>
    have digits (k : Nat) : k.repr ≠ "" := by simp [← String.toList_inj]
    cases n <;> simp [shown, isNull, Int.repr]
  | text | null => simp [shown, isNull]

end Datum

inductive Chain where
  | text (s : String)
  | number (i : Initial)
  | null
  | name (id : String)
  | join (left right : Chain)

namespace Chain

def names : Chain → List String
  | text _ | number _ | null => []
  | name id => [id]
  | join left right => left.names ++ right.names

def operands (σ : String → Datum) : Chain → List Datum
  | text s => [.text s]
  | number i => [.int i.value]
  | null => [.null]
  | name id => [σ id]
  | join left right => left.operands σ ++ right.operands σ

def shown (σ : String → Datum) (c : Chain) : String :=
  String.join ((c.operands σ).map Datum.shown)

def result (σ : String → Datum) : Chain → Datum
  | text s => .text s
  | number i => .int i.value
  | null => .null
  | name id => σ id
  | join left right => .text (left.shown σ ++ right.shown σ)

def draft : Chain → Draft
  | text s => .cell (.constant (.text s))
  | number i => i.arith.draft
  | null => .cell (.call (.ident "NULL") [])
  | name id => .call (.ident id) []
  | join left right => .call (.ident "CONCAT") [left.draft, right.draft]

def target : Chain → Expr
  | text s => .call (.name "m") [.constant (.text s)]
  | number i => i.arith.target
  | null => .call (.name "m") [.call (.name "NULL") []]
  | name id => .call (.name id) []
  | join left right => .call (.name "CONCAT") [left.target, right.target]

def cost : Chain → Nat
  | text _ | number _ | null | name _ => 6
  | join left right => max left.cost right.cost + 4

lemma shown_join : (join left right).shown σ = left.shown σ ++ right.shown σ := by
  rw [shown, operands, map_append, String.join_append]
  rfl

lemma shown_result (c : Chain) : (c.result σ).shown = c.shown σ := by
  cases c with
  | join left right => exact shown_join.symm
  | text | number | null | name => simp [result, shown, operands]

lemma isEmpty_shown (c : Chain) : (c.shown σ).isEmpty = (c.operands σ).all Datum.isNull := by
  rw [Bool.eq_iff_iff, String.isEmpty_iff, all_eq_true, ← String.toList_eq_nil_iff, shown,
    String.toList_join, List.flatMap_eq_nil_iff]
  simp [Datum.shown_eq_empty_iff]

attribute [local simp] draft target names toExpr toExprs

lemma toExpr_draft_iff (c : Chain) :
    toExpr c.draft = some c.target ↔ ∀ id ∈ c.names, IsPlain id := by
  have helpers : IsPlain "NULL" ∧ IsPlain "CONCAT" := by decide
  induction c with
  | text | null =>
    simp [Draft.cell, toExpr_ident isPlain_helper.1, toExpr_ident helpers.1]
  | number i => simp [toExpr_arith (@isOver_initial [] i)]
  | name id =>
    by_cases plain : IsPlain id
    · simp [toExpr_ident plain, plain]
    · have refused : isIdentifier id = false := Bool.eq_false_iff.2 plain
      have other : nameExpr id ≠ some (.name id) := by
        unfold nameExpr
        simp only [refused, Bool.false_eq_true, if_false]
        split <;> simp
      simp [plain, Draft.ident, label?, bind_eq_some_iff, other]
  | join left right ihl ihr =>
    rw [names, forall_mem_append]
    refine Iff.trans ?_ (and_congr ihl ihr)
    simp [toExpr_ident helpers.2, bind_eq_some_iff]

end Chain

/-- The parse trees of chains, with parentheses anywhere. -/
inductive SpellsChain : Tree Token → Chain → Prop where
  | rung (known : kind ∈ rungs) (inner : SpellsChain t c) : SpellsChain (.node kind [t]) c
  | parentheses (opening : IsLeaf .LEFT_PAREN l) (inner : SpellsChain t c)
      (closing : IsLeaf .RIGHT_PAREN r) : SpellsChain (.node .atom [l, t, r]) c
  | text (token : Token) (is : token.kind = .CHAR_STRING) (quotes : 2 ≤ token.text.length) :
      SpellsChain (.node .quotedString [.leaf token]) (.text (unquote token.text))
  | number (value : SpellsArith t i.arith) : SpellsChain t (.number i)
  | null (absent : Logic.SpellsFormula t (.constant none)) : SpellsChain t .null
  | name (reference : SpellsReference t x) : SpellsChain t (.name x)
  | join (left : SpellsChain l c) (bar : IsLeaf .BAR b) (second : IsLeaf .BAR b')
      (right : SpellsChain r d) : SpellsChain (.node .concatenation [l, b, b', r]) (.join c d)

lemma SpellsChain.isOperand (spelled : SpellsChain t c) : IsOperand t := by
  induction spelled with
  | rung known inner ih => exact ih.within [] []
  | parentheses opening inner closing ih => exact ih.within [_] [_]
  | text token is quotes => exact ⟨rfl, .inl (by rwa [Tree.text_single, Tree.text_leaf])⟩
  | number value => exact value.isOperand
  | null absent => exact absent.isOperand
  | name ref => exact ref.isOperand
  | join left bar second right ihl ihr => exact ihl.within [] [_, _, _]

lemma concatenation_bars (left : IsOperand l) (right : IsOperand r) (first : token.kind = .BAR)
    (second : token'.kind = .BAR) :
    concatenation (.node .concatenation [l, .leaf token, .leaf token', r]) parts =
      .ok [.call (.ident "CONCAT") parts] := by
  cases l with
  | leaf token => cases left.phrase
  | node _ _ =>
    cases r with
    | leaf token => cases right.phrase
    | node _ _ => simp [concatenation, Tree.children, count, first, second]

lemma compile_chain (spelled : SpellsChain t c) (decl : Declares s c.names) :
    compile src t s = .ok ([c.draft], s) := by
  induction spelled with
  | rung known inner ih => exact compile_rung known inner.isOperand (ih decl)
  | parentheses opening inner closing ih => exact compile_parentheses opening closing (ih decl)
  | text token is quotes =>
    rw [compile]
    simp [quotedString, is]
    rfl
  | number value => exact compile_arith value (isOver_initial _) decl
  | null absent => exact Logic.compile_formula absent decl
  | name ref => exact compile_reference ref (decl _ mem_cons_self)
  | join left bar second right ihl ihr =>
    obtain ⟨inLeft, inRight⟩ := forall_mem_append.1 decl
    obtain ⟨token, is⟩ := bar
    obtain ⟨token', is'⟩ := second
    apply compile_ordinary (by decide)
    · apply compileAll_cons (ihl inLeft)
      rw [compileAll_leaf, compileAll_leaf]
      exact compileAll_single (ihr inRight)
    · rw [assemble, concatenation_bars left.isOperand right.isOperand is is']
      rfl

/-- The names of a chain stand for cells with scalars, and those of the library for what the library
has under them. -/
structure Holds (place : Run.Place) (σ : String → Datum) (names : List String) (m : Machine) :
    Prop where
  wrap : place.Sees m "m" (.routine .wrap)
  concat : place.Sees m "CONCAT" (.routine .concat)
  null : place.Sees m "NULL" (.library .null)
  cell : ∀ id ∈ names, ∃ a, place.Sees m id (.object a) ∧
    m.store.get? a = some (.cell (σ id).content)

lemma Holds.grows (holds : Holds place σ names m) (grows : m.Grows m') :
    Holds place σ names m' where
  wrap := holds.wrap.grows grows
  concat := holds.concat.grows grows
  null := holds.null.grows grows
  cell id member := by
    obtain ⟨a, sees, found⟩ := holds.cell id member
    exact ⟨a, sees.grows grows, grows.kept a _ found⟩

lemma settles_chain {c : Chain} (holds : Holds place σ names m) (part : c.names ⊆ names) :
    Settles (c.cost ≤ steps) (evaluate place steps c.target m) (Gives (c.result σ).content m) := by
  induction c generalizing steps m with
  | text s => exact gives_wrapped holds.wrap (settles_literal (.text s) (by omega)) rfl
  | null => exact gives_wrapped holds.wrap (Logic.settles_null holds.null) rfl
  | number i =>
    refine (settles_initial holds.wrap i).mono ?_
    rintro _ _ ⟨m1, grows, rfl, rfl⟩
    exact (gives_push _ m1).after grows
  | name id =>
    obtain ⟨a, sees, found⟩ := holds.cell id (part mem_cons_self)
    refine ((settles_reference sees found).fewer (by simp only [Chain.cost]; omega)).mono ?_
    rintro _ _ ⟨rfl, rfl⟩
    exact ⟨.refl _, a, rfl, found⟩
  | join left right ihl ihr =>
    obtain ⟨inLeft, inRight⟩ := List.append_subset.1 part
    simp only [Chain.cost]
    rcases steps with _ | _ | k
    iterate 2 exact .exhausted (by omega)
    · refine settles_call holds.concat (by simp) (by omega)
        ((settles_pair (ihl holds inLeft) fun grows =>
          ihr (holds.grows grows) inRight).fewer (by omega)) ?_
      rintro _ m1 ⟨a, b, rfl, grows, held, held'⟩
      refine .of_ok (concat_cells held held') ?_
      rw [Chain.shown_result, Chain.shown_result]
      exact (gives_push _ m1).after grows

/-- A chain of two operands or more, grouped in any way, is compiled to calls of `CONCAT`, which can
be written exactly if its names are identifiers of the target. Where the names stand for cells with
scalars, they give a cell with the texts of the operands one behind the other. It is null exactly if
all operands are. -/
theorem chain_concatenates {source : String} {t : Tree Token} {c : Chain} {s : Scope}
    (spelled : SpellsChain t c) (joined : ∃ left right, c = .join left right)
    (declares : Declares s c.names) :
    (compile source t s = .ok ([c.draft], s) ∧
      (toExpr c.draft = some c.target ↔ ∀ x ∈ c.names, IsPlain x)) ∧
    ∀ place σ m, Holds place σ c.names m → ∀ steps, c.cost ≤ steps →
      ∃ a m', evaluate place steps c.target m = .ok (.object a) m' ∧ m.Grows m' ∧
        m'.store.get? a =
          some (.cell (.text (String.join ((c.operands σ).map Datum.shown)))) ∧
        isAbsent (.object a) m' = .ok ((c.operands σ).all Datum.isNull) m' := by
  refine ⟨⟨compile_chain spelled declares, c.toExpr_draft_iff⟩, ?_⟩
  intro place σ m holds steps granted
  obtain ⟨_, m', ended, grows, a, rfl, held⟩ := (settles_chain holds (.refl _)).ends granted
  have text : (c.result σ).content = .text (c.shown σ) := by
    obtain ⟨left, right, rfl⟩ := joined
    rw [Chain.shown_join]
    rfl
  rw [text] at held
  refine ⟨a, m', ended, grows, held, ?_⟩
  rw [isAbsent, bind_ok (unwrap_cell held), ← c.isEmpty_shown]
  rfl

def barsTree (left right : Tree Token) : Tree Token :=
  .node .concatenation [left, leafOf .BAR "|", leafOf .BAR "|", right]

lemma spells_joined {word : String} (known : SpellsName (nameTree word) x) (spelled : SpellsChain t c) :
    SpellsChain (barsTree (climb operandRungs (referenceTree word)) t) (.join (.name x) c) :=
  .join (climb_of_rungs (P := (SpellsChain · (.name x))) (by decide) (.name (.mk known)) .rung)
    ⟨_, rfl⟩ ⟨_, rfl⟩ spelled

lemma spells_grouped (spelled : SpellsChain t c) :
    SpellsChain (.node .atom [leafOf .LEFT_PAREN "(", t, leafOf .RIGHT_PAREN ")"]) c :=
  .parentheses ⟨_, rfl⟩ spelled ⟨_, rfl⟩

def fiveMachine : Machine where
  store := ⟨#[.cell (.int 5)]⟩
  globals := [("m", .routine .wrap), ("CONCAT", .routine .concat), ("NULL", .library .null),
    ("X", .object 0)]

/-- With five in a variable, `x || (x || null)` is a text of two digits. -/
theorem five_concatenated :
    ∃ t c, SpellsChain t c ∧ c = .join (.name "X") (.join (.name "X") .null) ∧
      Holds {} (fun _ => .int 5) c.names fiveMachine ∧
      ∃ a m', evaluate {} c.cost c.target fiveMachine = .ok (.object a) m' ∧
        m'.store.get? a = some (.cell (.text "55")) ∧ isAbsent (.object a) m' = .ok false m' := by
  have sees {name v} (found : fiveMachine.globals.get? name = some v) :
      ({} : Run.Place).Sees fiveMachine name v := ⟨rfl, [], none, .program, found⟩
  have holds : Holds {} (fun _ => .int 5) ["X", "X"] fiveMachine := by
    refine ⟨sees rfl, sees rfl, sees rfl, fun x member => ⟨0, ?_, rfl⟩⟩
    obtain rfl : x = "X" := by simpa using member
    exact sees rfl
  have known : SpellsName (nameTree "x") "X" :=
    spells_name (by decide +kernel) ⟨'X', [], by decide, by decide, by decide⟩
  have spelled := spells_joined known
    (spells_grouped (spells_joined known (.null Logic.spells_null)))
  have declares : Declares { declared := ["X"] } ["X", "X"] := by simp [Declares]
  obtain ⟨-, gives⟩ := @chain_concatenates "" _ _ _ spelled ⟨_, _, rfl⟩ declares
  obtain ⟨a, m', ended, -, held, present⟩ := gives {} _ _ holds _ (Nat.le_refl _)
  exact ⟨_, _, spelled, rfl, holds, a, m', ended, held, present⟩

/-- A chain with a variable `a$b` is compiled, and cannot be written. -/
theorem dollar_chain_unwritten :
    ∃ t c, SpellsChain t c ∧ (∀ source, compile source t { declared := ["A$B"] } =
      .ok ([c.draft], { declared := ["A$B"] })) ∧ toExpr c.draft = none := by
  have known : SpellsName (nameTree "a$b") "A$B" :=
    spells_name (by decide +kernel) ⟨'A', ['$', 'B'], by decide, by decide, by decide⟩
  have spelled := spells_joined known (.null Logic.spells_null)
  have odd : nameExpr "A$B" = none := by decide +kernel
  exact ⟨_, _, spelled, fun _ => compile_chain spelled (by simp [Declares, Chain.names]),
    by simp [Chain.draft, Draft.ident, toExpr, toExprs, label?, odd]⟩

end BlockScript.Texts
