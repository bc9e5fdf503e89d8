import BlockScript.Proofs.Core.Language
import BlockScript.Proofs.Numeral
import BlockScript.Target.OfDraft

/-!
What the trees of the imperative core compile to, and the programs that these drafts are written as.
Expressions leave the scope as it is; counting loops add their indices to it.
-/

namespace BlockScript.Core
open Compile Tree Scope

def Calculation.arithmetic : Calculation → Arithmetic
  | add => .add
  | sub => .sub
  | mul => .mul

def Arith.draft : Arith → Draft
  | number n => .cell (.constant (.int n))
  | name id => .call (.ident id) []
  | negative operand => .negative operand.draft
  | calculate left operation right =>
    .binary left.draft (.arithmetic operation.arithmetic) right.draft

def Condition.draft : Condition → Draft
  | compare left comparison right =>
    .compare left.draft (.operator (.comparison comparison)) right.draft
  | both left right => .connect .both [left.draft, right.draft]
  | either left right => .connect .either [left.draft, right.draft]
  | negation operand => .call (.ident "NOT") [operand.draft]

structure IsOperand (t : Tree Token) : Prop where
  phrase : t.kind?.isSome
  text : 2 ≤ t.text.length ∨ t.text.length = 1 ∧ t.text ≠ "-"

section

variable {name : String}

lemma IsOperand.within (before after : List (Tree Token)) (operand : IsOperand t) :
    IsOperand (.node kind (before ++ t :: after)) := by
  refine ⟨rfl, ?_⟩
  have text : (Tree.node kind (before ++ t :: after)).text =
      String.join (before.map Tree.text) ++ (t.text ++ String.join (after.map Tree.text)) := by
    rw [Tree.text_node, map_append, String.join_append, map_cons, String.join_cons]
  rw [text, String.length_append, String.length_append]
  have inner := operand.text
  by_cases front : String.join (before.map Tree.text) = ""
  · by_cases back : String.join (after.map Tree.text) = ""
    · simpa [front, back] using inner
    · have := mt String.length_eq_zero_iff.1 back
      omega
  · have := mt String.length_eq_zero_iff.1 front
    omega

lemma IsOperand.of_text (phrase : t.kind?.isSome) (some_text : t.text ≠ "")
    (no_sign : t.text ≠ "-") : IsOperand t := by
  have pos : t.text.length ≠ 0 := fun zero => some_text (String.length_eq_zero_iff.1 zero)
  refine ⟨phrase, ?_⟩
  by_cases one : t.text.length = 1
  · exact .inr ⟨one, no_sign⟩
  · omega

lemma SpellsName.isOperand (spelled : SpellsName t name) : IsOperand t := by
  cases spelled with
  | mk token is word =>
    obtain ⟨first, rest, spelling, upper, -⟩ := word
    rw [String.toUpper, String.toList_map] at spelling
    have text : (node .regularId [.leaf token]).text = token.text := by
      simp [text_leaf]
    apply IsOperand.of_text
    · rfl
    · rw [text]
      rintro empty
      simp [empty] at spelling
    · rw [text]
      rintro sign
      rw [sign] at spelling
      cases spelling
      exact absurd upper (by decide)

lemma SpellsReference.isOperand (spelled : SpellsReference t name) : IsOperand t := by
  obtain ⟨id⟩ := spelled
  exact ((id.isOperand.within [] []).within [] []).within [] []

lemma SpellsArith.isOperand (spelled : SpellsArith t e) : IsOperand t := by
  induction spelled with
  | rung known inner ih => exact ih.within [] []
  | parentheses opening inner closing ih => exact ih.within [_] [_]
  | number token is some_digit digits bound =>
    have text : (node .numeric [.leaf token]).text = token.text := by
      simp [text_leaf]
    apply IsOperand.of_text
    · rfl
    · rwa [text]
    · rw [text]
      rintro sign
      simp_all
  | name ref => exact ref.isOperand
  | negative token is sign operand ih => exact ih.within [_] []
  | calculate left sign right ihl ihr => exact ihl.within [] [_, _]

lemma SpellsCondition.isOperand (spelled : SpellsCondition t c) : IsOperand t := by
  induction spelled with
  | rung known inner ih => exact ih.within [] []
  | parentheses opening inner closing ih => exact ih.within [_] [_]
  | compare left right sign => exact left.isOperand.within [] [_, _]
  | both left word right ihl ihr | either left word right ihl ihr => exact ihl.within [] [_, _]
  | negation word operand ih => exact ih.within [_] []

end

variable {s s₁ : Scope} {name : String}

lemma unary_operand (operand : IsOperand t) : unary [t] [d] = .ok [d] := by
  have one : "-".length = 1 := by decide
  have no_sign : (t.text == "-") = false := by
    rw [beq_eq_false_iff_ne]
    rintro sign
    have text := operand.text
    rw [sign, one] at text
    simp at text
  change Except.ok (if (t.text == "-") = true then [.negative d] else [d]) = _
  rw [no_sign]
  rfl

lemma unary_sign (sign : token.text = "-") : unary [.leaf token, t] [d] = .ok [.negative d] := by
  have marked : ((leaf token).text == "-") = true := by rw [text_leaf, sign]; rfl
  change Except.ok (if ((leaf token).text == "-") = true then [.negative d] else [d]) = _
  rw [marked]
  rfl

lemma compile_rung (known : kind ∈ rungs) (operand : IsOperand t)
    (inner : compile src t s = .ok ([d], s₁)) :
    compile src (.node kind [t]) s = .ok ([d], s₁) := by
  have parts := compileAll_single inner
  have unsigned := unary_operand (d := d) operand
  cases t with
  | leaf token => cases operand.phrase
  | node k ts =>
    unfold rungs at known
    fin_cases known
    -- a rung that could be a sign looks at the text of its part, and a constant has its own rule
    · apply compile_ordinary (by decide) parts
      rw [assemble, children, unsigned]
      rfl
    · rw [compile]
      exact parts
    all_goals exact compile_of_parts parts rfl

lemma compile_parentheses (opening : IsLeaf .LEFT_PAREN l) (closing : IsLeaf .RIGHT_PAREN r)
    (inner : compile src t s = .ok ([d], s₁)) :
    compile src (.node .atom [l, t, r]) s = .ok ([d], s₁) := by
  apply compile_ordinary (by decide)
  · rw [opening.skip]
    exact compileAll_cons inner (closing.skip.trans compileAll_nil)
  · rfl

def Declares (s : Scope) (names : List String) : Prop := ∀ name ∈ names, name ∈ s.declared

lemma SpellsName.capitals (spelled : SpellsName t name) : t.capitals = name := by
  obtain ⟨token, is, word⟩ := spelled
  simp [capitals, text_leaf]

lemma compile_name (spelled : SpellsName t name) : compile src t s = .ok ([.ident name], s) := by
  obtain ⟨token, is, word⟩ := spelled
  rfl

lemma resolve_declared (declared : name ∈ s.declared) : s.resolve name = .ident name := by
  simp [resolve, declared]

lemma use_declared (declared : name ∈ s.declared) : s.use (.call (.ident name) []) = .ok s := by
  simp [use, rootOf, Draft.ident, declared]

lemma elementPart_name (spelled : SpellsName t name) (declared : name ∈ s.declared) :
    elementPart [.node .idExpression [t]] parts s = .ok (.call (.ident name) [], s) := by
  have names : namesOf [.node .idExpression [t]] .idExpression = [name] := by
    rw [← spelled.capitals]
    simp [namesOf, kind?]
  have path : s.resolvePath [name] = .ok (.ident name) := by
    rw [resolvePath, resolve_declared declared]
    rfl
  simp only [elementPart, names]
  change (do
    let callee ← s.resolvePath [name]
    Except.ok (Draft.call callee [], s)) = _
  rw [path]
  rfl

lemma element_reference (declared : name ∈ s.declared) :
    element [.call (.ident name) []] s = .ok (.call (.ident name) [], s) := by
  change (do
    let after ← s.use (.call (.ident name) [])
    Except.ok (Draft.call (.ident name) [], after)) = _
  rw [use_declared declared]
  rfl

lemma compile_reference (spelled : SpellsReference t name) (declared : name ∈ s.declared) :
    compile src t s = .ok ([.call (.ident name) []], s) := by
  obtain ⟨id⟩ := spelled
  apply compile_ordinary (by decide)
  · apply compileAll_single
    apply compile_ordinary (by decide)
    · exact compileAll_single (compile_of_parts (compileAll_single (compile_name id)) rfl)
    · simp only [assemble, children, bind, StateT.bind, elementPart_name id declared]
      rfl
  · simp only [assemble, bind, StateT.bind, element_reference declared]
    rfl

lemma concatenation_calculation {op : Calculation} (left : IsOperand l)
    (right : IsOperand r) (is : token.kind = op.terminal) :
    concatenation (.node .concatenation [l, .leaf token, r]) [x, y] =
      .ok [.binary x (.arithmetic op.arithmetic) y] := by
  cases l with
  | leaf token => cases left.phrase
  | node _ _ =>
    cases r with
    | leaf token => cases right.phrase
    | node _ _ =>
      cases op <;>
      · change token.kind = _ at is
        simp [concatenation, children, count, arithmetic?, is, Calculation.terminal,
          Calculation.arithmetic]

lemma compile_arith (spelled : SpellsArith t e) (covered : e.isOver names = true)
    (decl : Declares s names) : compile src t s = .ok ([e.draft], s) := by
  induction spelled with
  | rung known inner ih => exact compile_rung known inner.isOperand (ih covered)
  | parentheses opening inner closing ih => exact compile_parentheses opening closing (ih covered)
  | number token is some_digit digits bound =>
    have text : (node .numeric [.leaf token]).text = token.text := by
      simp [text_leaf]
    rw [compile, text, numeral_digits (by simpa using some_digit) digits bound]
    rfl
  | name ref =>
    apply compile_reference ref
    apply decl
    simpa [Arith.isOver] using covered
  | negative token is sign operand ih =>
    apply compile_ordinary (by decide)
    · rw [compileAll_leaf]
      exact compileAll_single (ih covered)
    · rw [assemble, children, unary_sign sign]
      rfl
  | calculate left sign right ihl ihr =>
    obtain ⟨token, is⟩ := sign
    rw [Arith.isOver, and_eq_true] at covered
    apply compile_ordinary (by decide)
    · apply compileAll_cons (ihl covered.1)
      rw [compileAll_leaf]
      exact compileAll_single (ihr covered.2)
    · rw [assemble, List.singleton_append,
        concatenation_calculation left.isOperand right.isOperand is]
      rfl

lemma operatorOf_comparison {text : String} (sign : (text, comparison) ∈ comparisons) :
    operatorOf text = .ok (.comparison comparison) := by
  simp only [comparisons, mem_cons, not_mem_nil, or_false] at sign
  rcases sign with ⟨rfl, rfl⟩ | ⟨rfl, rfl⟩ | ⟨rfl, rfl⟩ | ⟨rfl, rfl⟩ | ⟨rfl, rfl⟩ | ⟨rfl, rfl⟩ |
    ⟨rfl, rfl⟩ <;> rfl

lemma compile_operator (sign : ((node .relationalOperator signs).text, comparison) ∈ comparisons) :
    compile src (.node .relationalOperator signs) s =
      .ok ([.operator (.comparison comparison)], s) := by
  rw [compile, operatorOf_comparison sign]
  rfl

lemma logical_connected (left : IsOperand l) (right : IsOperand r) (conn : Connective)
    (is : token.kind = match conn with | .both => .AND | .either => .OR) :
    logical (.node .logicalExpression [l, .leaf token, r]) [x, y] = .ok (.connect conn [x, y]) := by
  cases l with
  | leaf token => cases left.phrase
  | node _ _ =>
    cases r with
    | leaf token => cases right.phrase
    | node _ _ =>
      cases conn <;>
      · simp [logical, head, first, children, is, bind, Except.bind, pure, Except.pure]

lemma logical_negated (operand : IsOperand r) (is : token.kind = .NOT) :
    logical (.node .logicalExpression [.leaf token, r]) [x] = .ok (.call (.ident "NOT") [x]) := by
  cases r with
  | leaf token => cases operand.phrase
  | node _ _ => simp [logical, head, first, children, is, bind, Except.bind, pure, Except.pure]

lemma compile_connected (left : IsOperand l) (right : IsOperand r) (conn : Connective)
    (word : IsLeaf (match conn with | .both => .AND | .either => .OR) w)
    (first : compile src l s = .ok ([x], s)) (second : compile src r s = .ok ([y], s)) :
    compile src (.node .logicalExpression [l, w, r]) s = .ok ([.connect conn [x, y]], s) := by
  obtain ⟨token, is⟩ := word
  apply compile_ordinary (by decide)
  · apply compileAll_cons first
    rw [compileAll_leaf]
    exact compileAll_single second
  · rw [assemble, List.singleton_append, logical_connected left right conn is]
    rfl

lemma compile_negated (operand : IsOperand r) (word : IsLeaf .NOT w)
    (inner : compile src r s = .ok ([x], s)) :
    compile src (.node .logicalExpression [w, r]) s = .ok ([.call (.ident "NOT") [x]], s) := by
  obtain ⟨token, is⟩ := word
  apply compile_ordinary (by decide)
  · rw [compileAll_leaf]
    exact compileAll_single inner
  · rw [assemble, logical_negated operand is]
    rfl

lemma compile_condition (spelled : SpellsCondition t c) (covered : c.isOver names = true)
    (decl : Declares s names) :
    compile src t s = .ok ([c.draft], s) := by
  induction spelled with
  | rung known inner ih => exact compile_rung known inner.isOperand (ih covered)
  | parentheses opening inner closing ih => exact compile_parentheses opening closing (ih covered)
  | compare left right sign =>
    rw [Condition.isOver, and_eq_true] at covered
    apply compile_ordinary (by decide)
    · apply compileAll_cons (compile_arith left covered.1 decl)
      apply compileAll_cons (compile_operator sign)
      exact compileAll_single (compile_arith right covered.2 decl)
    · rfl
  | both left word right ihl ihr | either left word right ihl ihr =>
    rw [Condition.isOver, and_eq_true] at covered
    exact compile_connected left.isOperand right.isOperand _ word (ihl covered.1) (ihr covered.2)
  | negation word operand ih => exact compile_negated operand.isOperand word (ih covered)

end BlockScript.Core

namespace BlockScript.Core
open Target

def IsPlain (name : String) : Prop := isIdentifier name = true

instance (name : String) : Decidable (IsPlain name) := inferInstanceAs (Decidable (_ = true))

def Arith.target : Arith → Expr
  | number n => .call (.name "m") [.constant (.int n)]
  | name id => .call (.name id) []
  | negative operand => .negative operand.target
  | calculate left operation right => .binary left.target operation.arithmetic right.target

def Condition.target : Condition → Expr
  | compare left comparison right => .compare left.target comparison right.target
  | both left right => .connect .both [left.target, right.target]
  | either left right => .connect .either [left.target, right.target]
  | negation operand => .call (.name "NOT") [operand.target]

def Jump.target : Jump → Stmt
  | exit => .breakLoop
  | skip => .continueLoop

mutual
def Command.target : Command → Stmt
  | .assign name value => .update (.name name) value.target
  | .null => .pass
  | .branch test body orelse => .branch test.target (targets body) (targets orelse)
  | .loop none body => .whileLoop (.constant (.bool true)) (targets body)
  | .loop (some test) body => .whileLoop test.target (targets body)
  | .count index lower upper body =>
    .forLoop index (.call (.name "mrange") [lower.target, upper.target]) (targets body)
  | .jump target none => target.target
  | .jump target (some test) => .branch test.target [target.target] []

def targets : List Command → List Stmt
  | [] => []
  | c :: cs => c.target :: targets cs
end

lemma targets_ne_nil (some_command : cs ≠ []) : targets cs ≠ [] := by
  cases cs with
  | nil => exact absurd rfl some_command
  | cons c cs => simp [targets]

lemma isPlain_helper : IsPlain "m" ∧ IsPlain "NOT" ∧ IsPlain "mrange" := by
  decide

attribute [local simp] Arith.draft Arith.target Condition.draft Condition.target Command.target
  Command.indices toExpr toExprs toStmts writable writableAll

lemma toExpr_arith {e : Arith} (covered : e.isOver names = true)
    (plain : ∀ name ∈ names, IsPlain name) : toExpr e.draft = some e.target := by
  induction e with
  | number n =>
    simp [Draft.cell, toExpr_ident isPlain_helper.1]
  | name id =>
    have mem : id ∈ names := by simpa [Arith.isOver] using covered
    simp [toExpr_ident (plain id mem)]
  | negative operand ih => simp [ih covered]
  | calculate left op right ihl ihr =>
    rw [Arith.isOver, and_eq_true] at covered
    simp [ihl covered.1, ihr covered.2]

lemma toExpr_condition {c : Condition} (covered : c.isOver names = true)
    (plain : ∀ name ∈ names, IsPlain name) : toExpr c.draft = some c.target := by
  induction c with
  | compare left comparison right =>
    rw [Condition.isOver, and_eq_true] at covered
    simp [toExpr_arith covered.1 plain, toExpr_arith covered.2 plain]
  | both left right ihl ihr | either left right ihl ihr =>
    rw [Condition.isOver, and_eq_true] at covered
    simp [ihl covered.1, ihr covered.2]
  | negation operand ih =>
    simp [toExpr_ident isPlain_helper.2.1, ih covered]

lemma writable_arith (e : Arith) : writable e.draft = true := by
  induction e with
  | number | name => rfl
  | negative operand ih => exact ih
  | calculate left op right ihl ihr => simp [ihl, ihr]

lemma writable_condition (c : Condition) : writable c.draft = true := by
  induction c with
  | compare left comparison right =>
    simp [writable_arith left, writable_arith right]
  | both left right ihl ihr | either left right ihl ihr =>
    simp [ihl, ihr]
  | negation operand ih => simp [Draft.ident, ih]

def IsLine (d : Draft) (s : Stmt) : Prop := isBare d = false ∧ toStmts d = some [s]

lemma toBody_lines (lines : Forall₂ IsLine ds ss) :
    toBody (.lines before last) ds = some (before ++ last :: ss) := by
  induction lines generalizing before last with
  | nil => rfl
  | @cons d s ds ss first rest ih =>
    have later : toBody (.lines (before ++ [last]) s) ds = some (before ++ [last] ++ s :: ss) := ih
    rw [toBody, first.1, first.2]
    simpa [Written.line] using later

lemma toBody_of_lines (lines : Forall₂ IsLine ds ss) (some_line : ss ≠ []) :
    toBody .nothing ds = some ss := by
  cases lines with
  | nil => exact absurd rfl some_line
  | @cons d s ds ss first rest =>
    have later : toBody (.lines [] s) ds = some ([] ++ s :: ss) := toBody_lines rest
    rw [toBody, first.1, first.2]
    simpa [Written.line] using later

lemma toBody_none (own_line : ∀ d ∈ ds, isBare d = false) (mem : d ∈ ds)
    (unwritten : toStmts d = none) : toBody w ds = none := by
  induction ds generalizing w with
  | nil => simp at mem
  | cons first rest ih =>
    rw [toBody, own_line first (by simp)]
    rcases mem_cons.1 mem with rfl | later
    · simp [unwritten]
    · simp [ih (fun d mem => own_line d (by simp [mem])) later]

lemma toOutermost_eq_toBody (own_line : ∀ d ∈ ds, isBare d = false) :
    toOutermost w ds = toBody w ds := by
  induction ds generalizing w with
  | nil => rfl
  | cons d ds ih =>
    rw [toOutermost, toBody, own_line d (by simp)]
    simp [ih fun d mem => own_line d (by simp [mem])]

/-- A draft stands for a command where the given names are visible: it is written as the command's
statement, on a line of its own, unless the command counts with a name that is no identifier. -/
structure Writes (names : List String) (d : Draft) (c : Command) : Prop where
  own_line : isBare d = false
  writable : writable d = true
  written : (∀ name ∈ names, IsPlain name) → (∀ i ∈ c.indices, IsPlain i) →
    toStmts d = some [c.target]
  unwritten : ∀ i ∈ c.indices, ¬ IsPlain i → toStmts d = none

/-- Such a draft that a phrase around it takes for a part of a body, not for a mark or a handler. -/
structure Renders (names : List String) (d : Draft) (c : Command) : Prop extends
    Writes names d c where
  shape : (∃ inner, d = .expr inner) ∨ ∃ test body orelse, d = .branch test body orelse

section

lemma Writes.expr (w : Writes names d c) : Renders names (.expr d) c where
  own_line := rfl
  writable := w.writable
  written plain indices := by
    rw [toStmts, w.own_line]
    exact w.written plain indices
  unwritten i mem odd := by
    rw [toStmts, w.own_line]
    exact w.unwritten i mem odd
  shape := .inl ⟨d, rfl⟩

variable (renders : Forall₂ (Renders names) parts cs)
include renders

lemma renders_lines (plain : ∀ name ∈ names, IsPlain name)
    (indices : ∀ i ∈ indicesOf cs, IsPlain i) : Forall₂ IsLine parts (targets cs) := by
  induction renders with
  | nil => exact .nil
  | cons first rest ih =>
    simp only [indicesOf, mem_append] at indices
    exact .cons ⟨first.own_line, first.written plain fun i mem => indices i (.inl mem)⟩
      (ih fun i mem => indices i (.inr mem))

lemma toBody_written (some_command : cs ≠ []) (plain : ∀ name ∈ names, IsPlain name)
    (indices : ∀ i ∈ indicesOf cs, IsPlain i) : toBody .nothing parts = some (targets cs) :=
  toBody_of_lines (renders_lines renders plain indices) (targets_ne_nil some_command)

lemma rendered_each {P : Draft → Prop} (each : ∀ {d c}, Renders names d c → P d) :
    ∀ d ∈ parts, P d := by
  induction renders with
  | nil => exact List.forall_mem_nil _
  | cons first rest ih => exact forall_mem_cons.2 ⟨each first, ih⟩

lemma unwritten_part (index : i ∈ indicesOf cs) (odd : ¬ IsPlain i) :
    ∃ d ∈ parts, toStmts d = none := by
  induction renders with
  | nil => simp [indicesOf] at index
  | cons first rest ih =>
    simp only [indicesOf, mem_append] at index
    rcases index with here | later
    · exact ⟨_, mem_cons_self, first.unwritten i here odd⟩
    · grind

lemma toBody_unwritten (index : i ∈ indicesOf cs) (odd : ¬ IsPlain i) : toBody w parts = none := by
  obtain ⟨d, mem, unwritten⟩ := unwritten_part renders index odd
  exact toBody_none (rendered_each renders (·.own_line)) mem unwritten

lemma writableAll_renders : writableAll parts = true := by
  induction renders with
  | nil => rfl
  | cons first rest ih => simp [first.writable, ih]

end

lemma toStmts_branch (cond : toExpr t = some e) (yes : toBody .nothing bodyParts = some b)
    (no : orelseParts = [] ∧ o = [] ∨ toBody .nothing orelseParts = some o) :
    toStmts (.branch t bodyParts orelseParts) = some [.branch e b o] := by
  cases orelseParts with
  | nil =>
    rcases no with ⟨-, rfl⟩ | absurdity
    · simp [cond, yes]
    · simp [toBody, Written.finish] at absurdity
  | cons first rest =>
    rcases no with ⟨none, -⟩ | no
    · cases none
    · simp [cond, yes, no]

lemma writes_assign {name : String} (visible : name ∈ names) (covered : e.isOver names = true) :
    Writes names (.update (.ident name) e.draft) (.assign name e) where
  own_line := rfl
  writable := by simp [Draft.ident, writable_arith e]
  written plain _ := by
    simp [toPlace, toExpr_ident (plain name visible), toExpr_arith covered plain]
  unwritten i mem _ := by simp at mem

lemma writes_null : Writes names .pass .null where
  own_line := rfl
  writable := rfl
  written _ _ := rfl
  unwritten i mem _ := by simp at mem

lemma writes_branch (covered : test.isOver names = true)
    (yes : Forall₂ (Renders names) bodyParts body) (some_command : body ≠ [])
    (no : Forall₂ (Renders names) orelseParts orelse) :
    Writes names (.branch test.draft bodyParts orelseParts) (.branch test body orelse) where
  own_line := rfl
  writable := by
    simp [writable_condition test, writableAll_renders yes, writableAll_renders no]
  written plain indices := by
    simp only [Command.indices, mem_append] at indices
    apply toStmts_branch (toExpr_condition covered plain)
    · exact toBody_written yes some_command plain fun i mem => indices i (.inl mem)
    · cases no with
      | nil => exact .inl ⟨rfl, rfl⟩
      | cons first rest => exact .inr (toBody_written (.cons first rest) (by simp) plain
          fun i mem => indices i (.inr mem))
  unwritten i mem odd := by
    simp only [Command.indices, mem_append] at mem
    cases no with
    | nil =>
      simp only [indicesOf, not_mem_nil, or_false] at mem
      simp [toBody_unwritten yes mem odd]
    | cons first rest =>
      rcases mem with inBody | inElse
      · simp [toBody_unwritten yes inBody odd]
      · simp [toBody_unwritten (.cons first rest) inElse odd]

def testDraft (test : Option Condition) : Draft :=
  test.elim (.constant (.bool true)) Condition.draft

lemma writes_loop {test : Option Condition} (covered : test.all (·.isOver names) = true)
    (run : Forall₂ (Renders names) bodyParts body) (some_command : body ≠ []) :
    Writes names (.whileLoop (testDraft test) bodyParts) (.loop test body) where
  own_line := rfl
  writable := by
    cases test with
    | none => simp [testDraft, writableAll_renders run]
    | some test => simp [testDraft, writable_condition test, writableAll_renders run]
  written plain indices := by
    have lines := toBody_written run some_command plain indices
    cases test with
    | none => simp [testDraft, lines]
    | some test =>
      have cond := toExpr_condition (by simpa using covered) plain
      simp [testDraft, cond, lines]
  unwritten i mem odd := by
    simp [toBody_unwritten run mem odd]

lemma writes_count (low : lower.isOver names = true) (high : upper.isOver names = true)
    (visible : ∀ name ∈ inside, name = i ∨ name ∈ names)
    (run : Forall₂ (Renders inside) bodyParts body) (some_command : body ≠ []) :
    Writes names
      (.forLoop (.name (.ident i)) (.call (.ident "mrange") [lower.draft, upper.draft]) bodyParts)
      (.count i lower upper body) where
  own_line := rfl
  writable := by
    simp [Draft.ident, writable_arith, writableAll_renders run]
  written plain indices := by
    simp only [Command.indices, mem_cons, forall_eq_or_imp] at indices
    have plainInside : ∀ name ∈ inside, IsPlain name := by grind
    have target : identifier? (.name (.ident i)) = some i := by
      exact if_pos indices.1
    simp [target, toExpr_ident isPlain_helper.2.2,
      toExpr_arith low plain, toExpr_arith high plain,
      toBody_written run some_command plainInside indices.2]
  unwritten j mem odd := by
    simp only [Command.indices, mem_cons] at mem
    rcases mem with rfl | deeper
    · have target : identifier? (.name (.ident j)) = none := by
        exact if_neg odd
      simp [target]
    · simp [toBody_unwritten run deeper odd]

def Jump.draft : Jump → Draft
  | exit => .breakLoop
  | skip => .continueLoop

def jumpDraft (target : Jump) (test : Option Condition) : Draft :=
  test.elim target.draft fun test => .branch test.draft [target.draft] []

lemma writes_jump {target : Jump} (covered : test.all (·.isOver names) = true) :
    Writes names (jumpDraft target test) (.jump target test) where
  own_line := by cases test <;> cases target <;> rfl
  writable := by
    cases test with
    | none => cases target <;> rfl
    | some test =>
      cases target <;> simp [jumpDraft, writable_condition test, Jump.draft]
  written plain _ := by
    cases test with
    | none => cases target <;> rfl
    | some test =>
      have cond := toExpr_condition (by simpa using covered) plain
      apply toStmts_branch cond _ (.inl ⟨rfl, rfl⟩)
      cases target <;> rfl
  unwritten i mem _ := by
    simp at mem

end BlockScript.Core
