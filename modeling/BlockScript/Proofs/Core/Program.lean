import BlockScript.Proofs.Core.Statements

/-!
The program of a block of the imperative core: the imports that every program has, an assignment for
each declared variable, and the statements of the body.
-/

namespace BlockScript.Core
open Compile Target

def declarationDraft (d : String × Initial) : Draft := .assign (.ident d.1) d.2.arith.draft

def declarationTarget (d : String × Initial) : Stmt := .assign d.1 d.2.arith.target

def Block.program (b : Block) : Program :=
  ⟨alwaysImported.map .importAll ++ (b.declarations.map declarationTarget ++ targets b.body)⟩

section

variable {src : String} {s : Scope} {names : List String}

lemma isOver_initial (i : Initial) : i.arith.isOver names = true := by
  unfold Initial.arith
  split <;> rfl

lemma variableOf_initial (name) (i : Initial) :
    variableOf [.ident name, i.arith.draft] s = .ok (declarationDraft (name, i), s.declare name) := by
  unfold declarationDraft Initial.arith
  cases i.negated <;> rfl

lemma compile_declaration (id : SpellsName t name)
    (sign : IsLeaf .ASSIGN_OP a) (value : SpellsArith v initial.arith)
    (semi : IsLeaf .SEMICOLON e) :
    compile src (.node .declareSpec [.node .variableDeclaration
          [.node .identifier [.node .idExpression [t]],
            .node .typeSpec [.node .datatype [.node .nativeDatatypeElement [n]]],
            .node .defaultValuePart [a, v], e]]) s =
      .ok ([declarationDraft (name, initial)], s.declare name) := by
  have untyped : compile src
      (.node .typeSpec [.node .datatype [.node .nativeDatatypeElement [n]]]) s = .ok ([], s) := by
    rfl
  have default_ : compile src (.node .defaultValuePart [a, v]) s =
      .ok ([initial.arith.draft], s) := by
    apply compile_ordinary (by decide)
    · rw [sign.skip]
      have none_declared : Declares s [] := nofun
      exact compileAll_single (compile_arith value (isOver_initial initial) none_declared)
    · rfl
  apply compile_of_parts (compileAll_single _) rfl
  apply compile_ordinary (by decide)
  · apply compileAll_cons (compile_identifier id)
    apply compileAll_cons untyped
    apply compileAll_cons default_
    rw [semi.skip, compileAll_nil]
  · simp only [assemble, bind, StateT.bind, cons_append, nil_append, variableOf_initial]
    rfl

lemma compile_declarations (spelled : SpellsDeclarations ts ds) :
    ∃ s', compileAll src ts s = .ok (ds.map declarationDraft, s') ∧ Widens s s' ∧
      Declares s' (ds.map (·.1)) := by
  induction spelled generalizing s with
  | nil => exact ⟨s, compileAll_nil, .refl s, nofun⟩
  | @cons t name n a v initial e ts ds id type sign value semi rest ih =>
    obtain ⟨s', comp, wider, decl⟩ := @ih (s.declare name)
    refine ⟨s', compileAll_cons (compile_declaration id sign value semi) comp,
      (widens_declare s name).trans wider, ?_⟩
    have here : Declares (s.declare name) [name] := declares_declare name nofun
    intro other mem
    rcases mem_cons.1 mem with rfl | later
    · exact wider.declared _ (here _ (by simp))
    · exact decl other later

lemma declaredNames_cons (d : String × Initial) (rest : declaredNames parts = .ok names) :
    declaredNames (declarationDraft d :: parts) = .ok (d.1 :: names) := by
  rw [declaredNames] at rest ⊢
  rw [mapM_cons]
  generalize (parts.mapM _ : Except Reject (List (List String))) = found at rest ⊢
  rcases found with reason | lists
  · cases rest
  · cases rest
    rfl

lemma declaredNames_drafts (ds : List (String × Initial)) :
    declaredNames (ds.map declarationDraft) = .ok (ds.map (·.1)) := by
  induction ds with
  | nil => rfl
  | cons d ds ih => exact declaredNames_cons d ih

lemma widens_declareAll (s names) : Widens s (s.declareAll names) := by
  induction names generalizing s with
  | nil => exact .refl s
  | cons name names ih => exact (widens_declare s name).trans (ih (s.declare name))

lemma body_plain (no_handler : ∀ part ∈ parts, part.isHandler = false)
    (no_name : ∀ part ∈ parts, part.isName = false) : body parts = parts := by
  have hs : parts.filter Draft.isHandler = [] := by simp_all
  have others : parts.filter (!·.isHandler) = parts := by simp_all
  simp only [body, hs, others, List.isEmpty_nil, reduceIte]
  split
  · rename_i label last
    have named := no_name _ (List.mem_of_getLast? last)
    cases named
  · rfl

end

section

variable {names : List String}

lemma Renders.isHandler (renders : Renders names d c) : d.isHandler = false := by
  rcases renders.shape with ⟨inner, rfl⟩ | ⟨test, body, orelse, rfl⟩ <;> rfl

lemma Renders.isName (renders : Renders names d c) : d.isName = false := by
  rcases renders.shape with ⟨inner, rfl⟩ | ⟨test, body, orelse, rfl⟩ <;> rfl

lemma Renders.asStatement (renders : Renders names d c) : Renders names d.asStatement c := by
  rcases renders.shape with ⟨inner, rfl⟩ | ⟨test, body, orelse, rfl⟩
  · exact renders
  · exact renders.toWrites.expr

lemma renders_asStatement (renders : Forall₂ (Renders names) parts cs) :
    Forall₂ (Renders names) (parts.map Draft.asStatement) cs := by
  induction renders with
  | nil => exact .nil
  | cons first rest ih => exact .cons first.asStatement ih

lemma block_parts {P : Draft → Prop} {ds : List (String × Initial)}
    (renders : Forall₂ (Renders names) parts cs) (command : ∀ {d c}, Renders names d c → P d)
    (decl : ∀ d, P (declarationDraft d)) : ∀ part ∈ ds.map declarationDraft ++ parts, P part :=
  forall_mem_append.2 ⟨forall_mem_map.2 fun d _ => decl d, rendered_each renders command⟩

def Block.lines (b : Block) (parts : List Draft) : List Draft :=
  alwaysImported.map .importAll ++
    (b.declarations.map (fun d => .expr (declarationDraft d)) ++ parts)

lemma script_drafted (spelled : SpellsBlock t b)
    (visible : areScoped b.declared [] false b.body = true) :
    ∃ parts, Forall₂ (Renders b.declared) parts b.body ∧
      script ⟨src, t⟩ = .ok (.program (b.lines parts)) := by
  cases spelled with
  | @mk w ds decls' v ts body' e q f declare decls begin_ body some_command end_ semi eof =>
    obtain ⟨s1, compiledHead, wider1, decl⟩ := @compile_declarations src {} _ _ decls
    let s2 := s1.declareAll (decls'.map (·.1))
    have wider2 : Widens s1 s2 := widens_declareAll s1 _
    have head_ : compile src (.node .seqOfDeclareSpecs ds) {} =
        .ok (decls'.map declarationDraft, s2) := by
      apply compile_ordinary (by decide) compiledHead
      simp only [assemble, declaredNames_drafts]
      rfl
    have known : Declares s2 (decls'.map (·.1) ++ []) := by
      rw [append_nil]
      exact wider2.declares decl
    obtain ⟨parts, s3, compiledBody, wider3, renders⟩ := compiles body visible known
    rw [append_nil] at renders
    have block : compile src
        (.node .anonymousBlock [w, .node .seqOfDeclareSpecs ds, v, .node .seqOfStatements ts, e, q])
        {} = .ok (decls'.map declarationDraft ++ parts, s3) := by
      apply compile_ordinary (by decide)
      · rw [declare.skip]
        apply compileAll_cons head_
        rw [begin_.skip]
        apply compileAll_cons (compile_sequence compiledBody)
        rw [end_.skip, semi.skip, compileAll_nil]
      · rw [assemble, append_nil, body_plain (block_parts renders (·.isHandler) fun _ => rfl)
          (block_parts renders (·.isName) fun _ => rfl)]
        rfl
    have unit : compile src (.node .unitStatement [.node .anonymousBlock
        [w, .node .seqOfDeclareSpecs ds, v, .node .seqOfStatements ts, e, q]]) {} =
        .ok ((decls'.map declarationDraft ++ parts).map Draft.asStatement, s3) :=
      compile_of_parts (compileAll_single block) rfl
    have units := compileAll_cons unit (eof.skip.trans compileAll_nil)
    have unimported : s3.imports = [] := (wider1.trans (wider2.trans wider3)).imports
    have imported : imports [] (s3.requireAll alwaysImported).imports =
        alwaysImported.map .importAll := by
      rw [Scope.requireAll, unimported]
      rfl
    refine ⟨parts.map Draft.asStatement, renders_asStatement renders, ?_⟩
    simp only [script, StateT.run, compile, bind, StateT.bind, units]
    change Except.ok (Draft.program (imports [] (s3.requireAll alwaysImported).imports ++ _)) = _
    rw [imported, append_nil, map_append, List.map_map]
    rfl

end

variable {b : Block}

lemma isLine_import (known : pkg ∈ alwaysImported) : IsLine (.importAll pkg) (.importAll pkg) := by
  fin_cases known <;> exact ⟨rfl, rfl⟩

lemma toStmts_declaration (plain : IsPlain name) :
    toStmts (.expr (declarationDraft (name, initial))) =
      some [declarationTarget (name, initial)] := by
  have target : identifier? (.ident name) = some name := by
    exact if_pos plain
  have value : toExpr initial.arith.draft = some initial.arith.target :=
    toExpr_arith (isOver_initial initial) (nofun : ∀ name ∈ [], IsPlain name)
  simp [toStmts, isBare, declarationDraft, declarationTarget, target, value]

lemma toStmts_declaration_odd (odd : ¬ IsPlain name) :
    toStmts (.expr (declarationDraft (name, initial))) = none := by
  have target : identifier? (.ident name) = none := by
    exact if_neg odd
  simp [toStmts, isBare, declarationDraft, target]

lemma writableAll_append : writableAll (ds ++ es) = (writableAll ds && writableAll es) := by
  induction ds with
  | nil => rfl
  | cons d ds ih => simp [writableAll, ih, Bool.and_assoc]

lemma writable_declaration (d : String × Initial) :
    writable (.expr (declarationDraft d)) = true := by
  simp [writable, declarationDraft, Draft.ident, writable_arith]

section

variable (renders : Forall₂ (Renders b.declared) parts b.body)
include renders

lemma writable_lines : writableAll (b.lines parts) = true := by
  have declared : ∀ ds : List (String × Initial),
      writableAll (ds.map fun d => .expr (declarationDraft d)) = true := by
    intro ds
    induction ds with
    | nil => rfl
    | cons d ds ih => rw [map_cons, writableAll, writable_declaration, ih]; rfl
  rw [Block.lines, writableAll_append, writableAll_append, declared, writableAll_renders renders]
  rfl

lemma own_line_lines : ∀ line ∈ b.lines parts, isBare line = false := by
  intro line mem
  simp only [Block.lines, mem_append, mem_map] at mem
  rcases mem with ⟨pkg, -, rfl⟩ | ⟨d, -, rfl⟩ | command
  · rfl
  · rfl
  · exact rendered_each renders (·.own_line) line command

lemma ofDraft_lines : ofDraft (.program (b.lines parts)) =
      match toBody .nothing (b.lines parts) with
      | some stmts => .ok ⟨stmts⟩
      | none => .error .illFormed := by
  rw [ofDraft, writable_lines renders, toOutermost_eq_toBody (own_line_lines renders)]
  rfl

lemma ofDraft_written (plain : ∀ name ∈ b.names, IsPlain name) :
    ofDraft (.program (b.lines parts)) = .ok b.program := by
  simp only [Block.names, mem_append] at plain
  have declared : ∀ name ∈ b.declared, IsPlain name := fun name mem => plain name (.inl mem)
  have imports_ : Forall₂ IsLine (alwaysImported.map .importAll)
      (alwaysImported.map .importAll) := by
    rw [List.forall₂_map_left_iff, List.forall₂_map_right_iff, List.forall₂_same]
    exact fun pkg known => isLine_import known
  have decls : Forall₂ IsLine (b.declarations.map fun d => .expr (declarationDraft d))
      (b.declarations.map declarationTarget) := by
    rw [List.forall₂_map_left_iff, List.forall₂_map_right_iff, List.forall₂_same]
    exact fun d mem => ⟨rfl, toStmts_declaration (declared d.1 (mem_map_of_mem mem))⟩
  have commands := renders_lines renders declared fun i mem => plain i (.inr mem)
  have lines : Forall₂ IsLine (b.lines parts) b.program.body :=
    List.rel_append imports_ (List.rel_append decls commands)
  rw [ofDraft_lines renders, toBody_of_lines lines (by simp [Block.program, alwaysImported])]

lemma ofDraft_unwritten (known : name ∈ b.names) (odd : ¬ IsPlain name) :
    ofDraft (.program (b.lines parts)) = .error .illFormed := by
  have unwritten : ∃ line ∈ b.lines parts, toStmts line = none := by
    rcases mem_append.1 known with declared | index
    · obtain ⟨d, mem, rfl⟩ := mem_map.1 declared
      refine ⟨.expr (declarationDraft d), ?_, toStmts_declaration_odd odd⟩
      simp only [Block.lines, mem_append, mem_map]
      exact .inr (.inl ⟨d, mem, rfl⟩)
    · obtain ⟨line, mem, none⟩ := unwritten_part renders index odd
      exact ⟨line, by simp [Block.lines, mem], none⟩
  obtain ⟨line, mem, none⟩ := unwritten
  rw [ofDraft_lines renders, toBody_none (own_line_lines renders) mem none]

end

end BlockScript.Core
