import BlockScript.Proofs.Branches
import BlockScript.Proofs.Core.Target

/-!
What statements of the imperative core compile to: one draft for each command, in order.
-/

namespace BlockScript.Core
open Compile

structure Widens (s s' : Scope) : Prop where
  declared : ∀ name ∈ s.declared, name ∈ s'.declared
  imports : s'.imports = s.imports

lemma Widens.refl (s) : Widens s s := ⟨fun _ mem => mem, rfl⟩

lemma Widens.trans (first : Widens s s') (second : Widens s' s'') : Widens s s'' :=
  ⟨fun name mem => second.declared name (first.declared name mem),
    second.imports.trans first.imports⟩

lemma Widens.declares (widens : Widens s s') (decl : Declares s names) : Declares s' names :=
  fun name mem => widens.declared name (decl name mem)

lemma widens_declare (s name) : Widens s (s.declare name) := by
  constructor
  · intro other mem
    simp only [Scope.declare, addNew]
    split
    · exact mem
    · exact mem_append_left _ mem
  · rfl

lemma declares_declare (name) (decl : Declares s names) :
    Declares (s.declare name) (name :: names) := by
  intro other mem
  rcases mem_cons.1 mem with rfl | later
  · simp only [Scope.declare, addNew]
    split
    · simp_all
    · simp
  · exact (widens_declare s name).declared other (decl other later)

lemma isUnmarked_condition (c : Condition) : IsUnmarked c.draft := by
  cases c <;> exact ⟨nofun, nofun⟩

lemma Renders.isUnmarked (renders : Renders names d c) : IsUnmarked d := by
  rcases renders.shape with ⟨inner, rfl⟩ | ⟨test, body, orelse, rfl⟩ <;> exact ⟨nofun, nofun⟩

variable {src : String} {body alternatives : List Draft}

def CompilesStatements (source : String) (names : List String) (s : Scope)
    (ts : List (Tree Token)) (cs : List Command) : Prop :=
  ∃ parts s', compileAll source ts s = .ok (parts, s') ∧ Widens s s' ∧
    Forall₂ (Renders names) parts cs

/-- Alternatives compile to parts that a branch puts together to a draft for each command. -/
def CompilesAlternatives (source : String) (names : List String) (s : Scope)
    (ts : List (Tree Token)) (cs : List Command) : Prop :=
  ∃ parts s' orelse latest, compileAll source ts s = .ok (parts, s') ∧ Widens s s' ∧
    parts.reverse.foldlM Chain.step {} = .ok ⟨[], orelse, latest⟩ ∧
    Forall₂ (Renders names) orelse cs

def Compiles (source : String) (names : List String) (s : Scope) :
    Region → List (Tree Token) → List Command → Prop
  | .statements => CompilesStatements source names s
  | .alternatives => CompilesAlternatives source names s

lemma compile_test (spelled : SpellsCondition t test) (covered : test.isOver names = true)
    (decl : Declares s names) :
    compile src (.node .condition [t]) s = .ok ([test.draft], s) :=
  compile_rung (by decide) spelled.isOperand (compile_condition spelled covered decl)

lemma compiles_cons (here : compile src t s = .ok ([d], s₁)) (widens : Widens s s₁)
    (writes : Writes names d c) (mark : IsLeaf .SEMICOLON semi)
    (rest : CompilesStatements src names s₁ ts cs) :
    CompilesStatements src names s (.node .statement [t] :: semi :: ts) (c :: cs) := by
  obtain ⟨parts, s', comp, wider, renders⟩ := rest
  refine ⟨.expr d :: parts, s', ?_, widens.trans wider, .cons writes.expr renders⟩
  apply compileAll_cons (compile_statement here)
  rwa [mark.skip]

lemma compile_assign (target : SpellsReference l name) (sign : IsLeaf .ASSIGN_OP a)
    (value : SpellsArith v e) (declared : name ∈ s.declared) (covered : e.isOver names = true)
    (decl : Declares s names) :
    compile src (.node .assignmentStatement [l, a, v]) s =
      .ok ([.update (.ident name) e.draft], s) := by
  apply compile_ordinary (by decide)
  · apply compileAll_cons (compile_reference target declared)
    rw [sign.skip]
    exact compileAll_single (compile_arith value covered decl)
  · rfl

section

variable (spelled : SpellsCondition c test) (then_ : IsLeaf .THEN w)
  (covered : test.isOver names = true) (decl : Declares s names)
  (yes : compileAll src bs s = .ok (body, s₁))
  (no : compileAll src os s₁ = .ok (alternatives, s2))
include spelled then_ covered decl yes no

lemma compileAll_branch :
    compileAll src (.node .condition [c] :: w :: .node .seqOfStatements bs :: os) s =
      .ok (test.draft :: body ++ alternatives, s2) := by
  apply compileAll_cons (compile_test spelled covered decl)
  rw [then_.skip]
  exact compileAll_cons (compile_sequence yes) no

lemma compile_if (if_ : IsLeaf .IF i) (end_ : IsLeaf .END e) (endIf : IsLeaf .IF f)
    (renders : Forall₂ (Renders names) body cs)
    (later : alternatives.reverse.foldlM Chain.step {} = .ok ⟨[], orelse, latest⟩) :
    compile src (.node .ifStatement
        (i :: .node .condition [c] :: w :: .node .seqOfStatements bs :: (os ++ [e, f]))) s =
      .ok ([.branch test.draft body orelse], s2) := by
  have tail : compileAll src (os ++ [e, f]) s₁ = .ok (alternatives ++ [], s2) := by
    apply compileAll_append no
    rw [end_.skip, endIf.skip, compileAll_nil]
  rw [append_nil] at tail
  apply compile_ordinary (by decide)
  · rw [if_.skip]
    exact compileAll_branch spelled then_ covered decl yes tail
  · rw [assemble, branch_parts (isUnmarked_condition test) (rendered_each renders (·.isUnmarked)) later]
    rfl

end

lemma compile_forever (loop_ : IsLeaf .LOOP l) (end_ : IsLeaf .END e) (endLoop : IsLeaf .LOOP f)
    (run : compileAll src bs s = .ok (parts, s₁)) :
    compile src (.node .loopStatement [l, .node .seqOfStatements bs, e, f]) s =
      .ok ([.whileLoop (testDraft none) parts], s₁) := by
  apply compile_ordinary (by decide)
  · rw [loop_.skip]
    apply compileAll_cons (compile_sequence run)
    rw [end_.skip, endLoop.skip, compileAll_nil]
  · obtain ⟨opening, isLoop⟩ := loop_
    obtain ⟨ending, isEnd⟩ := end_
    obtain ⟨closing, isClosing⟩ := endLoop
    simp only [assemble, Tree.children, loop,
      has_leaf, has_node, isLoop, isEnd, isClosing, append_nil]
    rfl

lemma compile_while (while_ : IsLeaf .WHILE w) (spelled : SpellsCondition c test)
    (loop_ : IsLeaf .LOOP l) (end_ : IsLeaf .END e) (endLoop : IsLeaf .LOOP f)
    (covered : test.isOver names = true) (decl : Declares s names)
    (run : compileAll src bs s = .ok (parts, s₁)) :
    compile src
      (.node .loopStatement [w, .node .condition [c], l, .node .seqOfStatements bs, e, f]) s =
      .ok ([.whileLoop (testDraft (some test)) parts], s₁) := by
  apply compile_ordinary (by decide)
  · rw [while_.skip]
    apply compileAll_cons (compile_test spelled covered decl)
    rw [loop_.skip]
    apply compileAll_cons (compile_sequence run)
    rw [end_.skip, endLoop.skip, compileAll_nil]
  · obtain ⟨word, isWhile⟩ := while_
    obtain ⟨opening, isLoop⟩ := loop_
    obtain ⟨ending, isEnd⟩ := end_
    obtain ⟨closing, isClosing⟩ := endLoop
    simp only [assemble, Tree.children, loop, has_leaf, isWhile, append_nil]
    rfl

lemma compile_identifier (spelled : SpellsName t name) :
    compile src (.node .identifier [.node .idExpression [t]]) s = .ok ([.ident name], s) := by
  have id : compile src (.node .idExpression [t]) s = .ok ([.ident name], s) :=
    compile_of_parts (compileAll_single (compile_name spelled)) rfl
  exact compile_of_parts (compileAll_single id) rfl

lemma compile_range (range : SpellsRange p i a b) (low : a.isOver names = true)
    (high : b.isOver names = true) (decl : Declares s names) :
    compile src p s =
      .ok ([.forLoop (.name (.ident i)) (.call (.ident "mrange") [a.draft, b.draft]) []],
        s.declare i) := by
  have wider : Declares (s.declare i) names := (widens_declare s i).declares decl
  cases range with
  | @mk t _ w l _ d u _ index word lower dots upper =>
    obtain rfl : (Tree.node .identifier [.node .idExpression [t]]).capitals = i := by
      simp [index.capitals]
    exact @compile_bounds src _ w false [] d [l] _ _ [u] _ _ s (compile_identifier index) word .up
      dots (compile_rung (by decide) lower.isOperand (compile_arith lower low wider))
      (compile_rung (by decide) upper.isOperand (compile_arith upper high wider))

lemma compile_count (for_ : IsLeaf .FOR w) (range : SpellsRange p i a b) (loop_ : IsLeaf .LOOP l)
    (end_ : IsLeaf .END e) (endLoop : IsLeaf .LOOP f) (low : a.isOver names = true)
    (high : b.isOver names = true) (decl : Declares s names)
    (run : compileAll src bs (s.declare i) = .ok (parts, s₁)) :
    compile src (.node .loopStatement [w, p, l, .node .seqOfStatements bs, e, f]) s =
      .ok ([.forLoop (.name (.ident i)) (.call (.ident "mrange") [a.draft, b.draft]) parts],
        s₁) := by
  apply compile_ordinary (by decide)
  · rw [for_.skip]
    apply compileAll_cons (compile_range range low high decl)
    rw [loop_.skip]
    apply compileAll_cons (compile_sequence run)
    rw [end_.skip, endLoop.skip, compileAll_nil]
  · obtain ⟨word, isFor⟩ := for_
    obtain ⟨opening, isLoop⟩ := loop_
    obtain ⟨ending, isEnd⟩ := end_
    obtain ⟨closing, isClosing⟩ := endLoop
    obtain ⟨_, _, _, _, _⟩ := range
    simp only [assemble, Tree.children, loop,
      has_leaf, has_node, isFor, isLoop, isEnd, isClosing, append_nil]
    rfl

lemma compile_jump (word : IsLeaf target.word w) :
    compile src (.node target.phrase [w]) s = .ok ([jumpDraft target none], s) := by
  have parts : compileAll src [w] s = .ok ([], s) := by rw [word.skip, compileAll_nil]
  obtain ⟨token, is⟩ := word
  cases target <;> exact compile_of_parts parts rfl

lemma compile_jumpWhen (word : IsLeaf target.word w) (when_ : IsLeaf .WHEN v)
    (spelled : SpellsCondition c test) (covered : test.isOver names = true)
    (decl : Declares s names) :
    compile src (.node target.phrase [w, v, .node .condition [c]]) s =
      .ok ([jumpDraft target (some test)], s) := by
  have parts : compileAll src [w, v, .node .condition [c]] s = .ok ([test.draft], s) := by
    rw [word.skip, when_.skip]
    exact compileAll_single (compile_test spelled covered decl)
  obtain ⟨token, is⟩ := word
  obtain ⟨token', is'⟩ := when_
  cases target <;> exact compile_of_parts parts rfl

/-- Trees that spell commands compile to drafts of them, wherever their names are declared. -/
lemma compiles (spelled : SpellsCommands region ts cs)
    (visible : areScoped vars indices inLoop cs = true) (decl : Declares s (vars ++ indices)) :
    Compiles src (vars ++ indices) s region ts cs := by
  induction spelled generalizing indices inLoop s with
  | nil => exact ⟨[], s, compileAll_nil, .refl s, .nil⟩
  | assign target sign value semicolon rest ih =>
    simp only [areScoped, Command.isScoped, and_eq_true, contains_iff_mem] at visible
    obtain ⟨⟨assigned, covered⟩, later⟩ := visible
    have known := mem_append_left indices assigned
    exact compiles_cons (compile_assign target sign value (decl _ known) covered decl)
      (.refl s) (writes_assign known covered) semicolon (ih later decl)
  | null word semicolon rest ih =>
    simp only [areScoped, and_eq_true] at visible
    exact compiles_cons (by rw [compile]; rfl) (.refl s) writes_null semicolon (ih visible.2 decl)
  | branch if_ test then_ body some_command orelse end_ endIf semicolon rest ihBody ihElse ih =>
    simp only [areScoped, Command.isScoped, and_eq_true] at visible
    obtain ⟨⟨⟨covered, inBody⟩, inElse⟩, later⟩ := visible
    obtain ⟨yes, s₁, compiledYes, wider, renders⟩ := ihBody inBody decl
    obtain ⟨no, s2, others, latest, compiledNo, wider', gathered, rendersElse⟩ :=
      ihElse inElse (wider.declares decl)
    exact compiles_cons
      (compile_if test then_ covered decl compiledYes compiledNo if_ end_ endIf renders gathered)
      (wider.trans wider') (writes_branch covered renders some_command rendersElse) semicolon
      (ih later ((wider.trans wider').declares decl))
  | forever loop_ body some_command end_ endLoop semicolon rest ihBody ih =>
    simp only [areScoped, Command.isScoped, and_eq_true] at visible
    obtain ⟨⟨covered, inBody⟩, later⟩ := visible
    obtain ⟨run, s₁, comp, wider, renders⟩ := ihBody inBody decl
    exact compiles_cons (compile_forever loop_ end_ endLoop comp) wider
      (writes_loop covered renders some_command) semicolon (ih later (wider.declares decl))
  | while_ word test loop_ body some_command end_ endLoop semicolon rest ihBody ih =>
    simp only [areScoped, Command.isScoped, and_eq_true] at visible
    obtain ⟨⟨covered, inBody⟩, later⟩ := visible
    obtain ⟨run, s₁, comp, wider, renders⟩ := ihBody inBody decl
    exact compiles_cons
      (compile_while word test loop_ end_ endLoop (by simpa using covered) decl comp) wider
      (writes_loop covered renders some_command) semicolon (ih later (wider.declares decl))
  | @count w p i a b l bs body' e f semi ts cs for_ range loop_ body some_command end_ endLoop
      semicolon rest ihBody ih =>
    simp only [areScoped, Command.isScoped, and_eq_true] at visible
    obtain ⟨⟨⟨⟨low, high⟩, fresh⟩, inBody⟩, later⟩ := visible
    have inside : Declares (s.declare i) (vars ++ i :: indices) := by
      intro name mem
      apply declares_declare i decl
      simpa [or_left_comm] using mem
    obtain ⟨run, s₁, comp, wider, renders⟩ := ihBody inBody inside
    have whole := (widens_declare s i).trans wider
    exact compiles_cons (compile_count for_ range loop_ end_ endLoop low high decl comp) whole
      (writes_count low high (by simp [or_left_comm]) renders some_command) semicolon
      (ih later (whole.declares decl))
  | jump word semicolon rest ih =>
    simp only [areScoped, Command.isScoped, and_eq_true] at visible
    exact compiles_cons (compile_jump word) (.refl s) (writes_jump visible.1.2) semicolon
      (ih visible.2 decl)
  | jumpWhen word when_ test semicolon rest ih =>
    simp only [areScoped, Command.isScoped, and_eq_true] at visible
    obtain ⟨⟨-, covered⟩, later⟩ := visible
    exact compiles_cons (compile_jumpWhen word when_ test (by simpa using covered) decl) (.refl s)
      (writes_jump covered) semicolon (ih later decl)
  | none_ => exact ⟨[], s, [], .missing, compileAll_nil, .refl s, rfl, .nil⟩
  | otherwise else_ body some_command ihBody =>
    obtain ⟨run, s₁, comp, wider, renders⟩ := ihBody visible decl
    refine ⟨.elseMark :: run, s₁, run, .elseMark, ?_, wider,
      else_parts (rendered_each renders (·.isUnmarked)), renders⟩
    apply compileAll_single
    apply compile_ordinary (by decide)
    · rw [else_.skip]
      exact compileAll_single (compile_sequence comp)
    · rfl
  | @elsif w c test t bs body' os orelse' word spelled then_ body some_command orelse ihBody
      ihElse =>
    simp only [areScoped, Command.isScoped, and_eq_true] at visible
    obtain ⟨⟨⟨covered, inBody⟩, inElse⟩, -⟩ := visible
    obtain ⟨yes, s₁, compiledYes, wider, renders⟩ := ihBody inBody decl
    obtain ⟨no, s2, others, latest, compiledNo, wider', gathered, rendersElse⟩ :=
      ihElse inElse (wider.declares decl)
    have writes := writes_branch covered renders some_command rendersElse
    have part : compile src
        (.node .elsifPart [w, .node .condition [c], t, .node .seqOfStatements bs]) s =
        .ok (.elsifMark :: (test.draft :: yes ++ []), s₁) := by
      apply compile_ordinary (by decide)
      · rw [word.skip]
        exact compileAll_branch spelled then_ covered decl compiledYes compileAll_nil
      · rfl
    rw [append_nil] at part
    exact ⟨_, s2, _, _, compileAll_cons part compiledNo, wider.trans wider',
      elsif_parts (isUnmarked_condition test) (rendered_each renders (·.isUnmarked)) gathered,
      .cons ⟨writes, .inr ⟨_, _, _, rfl⟩⟩ .nil⟩

end BlockScript.Core
