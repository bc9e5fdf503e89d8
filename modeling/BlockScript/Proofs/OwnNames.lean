import BlockScript.Proofs.PackageMembers

/-!
What a routine declares itself. In the statements of a routine a parameter, variable, type, cursor
or routine of its own is used by its name alone, whatever its package or the standard package has
under that name.
-/

namespace BlockScript.Compile

/-- `Reaches source s t s' u`: when the tree `t` is compiled in the scope `s`, its part `u` is
compiled in the scope `s'`, and no routine stands between them. -/
inductive Reaches (source : String) : Scope → Tree Token → Scope → Tree Token → Prop where
  | here : Reaches source s t s t
  | inside (passes : CompilesParts kind children) (split : children = front ++ t :: back)
      (before : compileAll source front s = .ok (ds, s₁)) (there : Reaches source s₁ t s' u) :
      Reaches source s (.node kind children) s' u
  | counting (index : namesOf children .indexName = name :: others)
      (split : children = front ++ t :: back)
      (before : compileAll source front (s.declare name) = .ok (ds, s₁))
      (there : Reaches source s₁ t s' u) :
      Reaches source s (.node .cursorLoopParam children) s' u
  | parameter (specified : children = earlier ++ .node .parameterSpec parts :: later)
      (read : cursorParameters source earlier s = .ok (names, s₁))
      (split : parts = front ++ t :: back) (before : compileAll source front s₁ = .ok (ds, s₂))
      (there : Reaches source s₂ t s' u) :
      Reaches source s (.node .cursorDeclaration children) s' u
  | cursor (read : cursorParameters source children s = .ok (names, s₁))
      (split : children = front ++ t :: back)
      (before : compileAll source front (s₁.cursor names) = .ok (ds, s₂))
      (there : Reaches source s₂ t s' u) :
      Reaches source s (.node .cursorDeclaration children) s' u

/-- A routine has a parameter of a name, or something of that name is declared before its
statements. -/
inductive Owns (children front : List (Tree Token)) (name : String) : Prop where
  | parameter (named : name ∈ parameterNames children)
  | declaration (specs : .node .seqOfDeclareSpecs declarations ∈ front)
      (spec : .node .declareSpec [t] ∈ declarations) (is : IsDeclaration t kind name)
      (own : kind.isDeclared = true ∨ kind = .subtype)

/-- A draft begins with a name and with nothing before it. -/
def Bare (name : String) (ds : List Draft) : Prop := ∃ d, ds = [d] ∧ Begins (.ident name) d

section

variable {s : Scope} {inner : List (Tree Token)}

lemma Reaches.first (passes : CompilesParts kind (t :: back)) (there : Reaches src s t s' u) :
    Reaches src s (.node kind (t :: back)) s' u :=
  .inside passes (show _ = [] ++ t :: back from rfl) compileAll_nil there

lemma grows_cursorParameters (free : lacksAll packages ts = true)
    (read : cursorParameters src ts s = .ok (names, s')) : s.Grows s' :=
  moves_cursorParameters Scope.isOrder_grows (.inr free) (.inl Scope.grows_declareAll) read

lemma Reaches.declared (reaches : Reaches src s t s' u) (free : lacks packages t = true)
    (known : name ∈ s.declared) : name ∈ s'.declared ∧ lacks packages u = true := by
  induction reaches with
  | here => exact ⟨known, free⟩
  | inside passes split before there ih =>
    obtain ⟨grows, inner⟩ := grows_before free split before
    exact ih inner (grows.declared known)
  | counting index split before there ih =>
    obtain ⟨grows, inner⟩ := grows_before free split before
    exact ih inner (grows.declared (Scope.mem_addNew.2 (.inl known)))
  | parameter specified read split before there ih =>
    subst specified
    have parts := (lacks_node.1 free).2
    rw [lacksAll_append, lacksAll_cons] at parts
    obtain ⟨grows, inner⟩ := grows_before parts.2.1 split before
    exact ih inner (grows.declared ((grows_cursorParameters parts.1 read).declared known))
  | cursor read split before there ih =>
    obtain ⟨grows, inner⟩ := grows_before free split before
    have outer := (grows_cursorParameters (lacks_node.1 free).2 read).declared known
    exact ih inner (grows.declared (mem_append_left _ outer))

lemma resolve_of_declared (known : name ∈ s.declared) : s.resolve name = .ident name := by
  simp [Scope.resolve, known]

lemma Refers.bare (refers : Refers u inner name) (free : lacks packages u = true)
    (known : name ∈ s.declared) (parts : compileAll src inner s = .ok (ds, s1))
    (comp : compile src u s = .ok (es, s')) : Bare name es ∧ s'.imports = s1.imports := by
  obtain ⟨d, s2, rfl, begins, grows, grows', imported⟩ :=
    refers.inv (refers.lacking free) parts comp
  have resolved := resolve_of_declared (grows.declared known)
  rw [resolved] at begins imported
  refine ⟨⟨d, rfl, begins⟩, ?_⟩
  rcases imported with ⟨-, rfl⟩ | ⟨-, root, found, rfl⟩
  · rfl
  · cases found
    have there : name ∈ s1.declared := grows'.declared (grows.declared known)
    rw [if_pos (by simp [there])]

lemma mem_declaredNames (made : declaredNames ds = .ok names)
    (assigned : .assign (.ident name) value ∈ ds) : name ∈ names := by
  obtain ⟨all, mapped, made⟩ := steps_of_bind made
  cases made
  exact (mem_flatten_mapM mapped name).2 ⟨_, assigned, [name], rfl, mem_singleton_self name⟩

lemma IsDeclaration.declared (is : IsDeclaration t kind name)
    (own : kind.isDeclared = true ∨ kind = .subtype) (spec : .node .declareSpec [t] ∈ decls)
    (free : lacksAll packages decls = true)
    (comp : compile src (.node .seqOfDeclareSpecs decls) s = .ok (ds, s')) :
    name ∈ s'.declared := by
  obtain ⟨parts, s1, inner, whole⟩ := parts_of_compile comp
  obtain ⟨names, _, lifted, rest⟩ := bind_inv whole
  obtain ⟨made, rfl⟩ := lift_inv lifted
  cases rest
  obtain ⟨front, back, rfl⟩ := List.append_of_mem spec
  obtain ⟨first, others, s2, -, after, rfl⟩ := compileAll_append_inv inner
  obtain ⟨drafts, rest, s3, here, later, rfl⟩ := compileAll_cons_inv after
  obtain ⟨_, _, single, plain⟩ := parts_of_compile here
  cases plain
  have enters := is.enters (compileAll_single_inv single)
  refine Scope.mem_addAllNew.2 ?_
  rcases own with isDeclared | rfl
  · rw [lacksAll_append, lacksAll_cons] at free
    have entered := (enters.declared name).2 (.inr ⟨rfl, isDeclared⟩)
    exact .inl ((grows_compileAll free.2.2 later).declared entered)
  · obtain ⟨value, assigned⟩ := enters.assigns rfl
    have drafted := mem_append_right first (mem_append_left rest assigned)
    exact .inr (mem_declaredNames made drafted)

lemma Owns.declared (owns : Owns ts front name) (free : lacksAll packages front = true)
    (before : compileAll src front (s.routine.declareAll (parameterNames ts)) =
      .ok (ds, s1)) : name ∈ s1.declared := by
  cases owns with
  | parameter named =>
    exact (grows_compileAll free before).declared (Scope.mem_addAllNew.2 (.inr named))
  | declaration specs spec is own =>
    obtain ⟨earlier, later, rfl⟩ := List.append_of_mem specs
    rw [lacksAll_append, lacksAll_cons] at free
    obtain ⟨_, _, _, -, after, -⟩ := compileAll_append_inv before
    obtain ⟨_, _, _, here, rest, -⟩ := compileAll_cons_inv after
    have entered := is.declared own spec (lacks_node.1 free.2.1).2 here
    exact (grows_compileAll free.2.2 rest).declared entered

end

/-- In the statements of a routine of a package, what the routine owns is used by its name alone and
imports nothing, wherever no other routine stands between. In the routines of the blocks among the
statements it is a member of the package exactly if the package has a member of this name, unless
it is declared there again. -/
theorem own_declaration_shadows {source package name : String} {s s₁ : Scope} {body : Tree Token}
    {front back : List (Tree Token)} {ds : List Draft} (inPackage : s.package = some package)
    (free : lacksAll packages (front ++ body :: back) = true)
    (owns : Owns (front ++ body :: back) front name)
    (before : compileAll source front
      (s.routine.declareAll (parameterNames (front ++ body :: back))) = .ok (ds, s₁))
    {s₂ s₃ s₄ : Scope} {u : Tree Token} {inner : List (Tree Token)} {es fs : List Draft}
    (refers : Refers u inner name) (parts : compileAll source inner s₂ = .ok (es, s₃))
    (compiled : compile source u s₂ = .ok (fs, s₄)) :
    (Reaches source s₁ body s₂ u → Bare name fs ∧ s₄.imports = s₃.imports) ∧
      (Visits source s₁ body s₂ u → name ∉ s₃.declared → name ≠ package →
        (Qualifies package name fs ↔
          name ∈ s.members ∨ package = "PLGLOBALS" ∧ name ∈ Scope.standard)) := by
  rw [lacksAll_append, lacksAll_cons] at free
  obtain ⟨inFront, inBody, -⟩ := free
  constructor
  · intro reaches
    obtain ⟨known, inner⟩ := reaches.declared inBody (owns.declared inFront before)
    exact refers.bare inner known parts compiled
  · intro visits unlocal other
    have grows := grows_compileAll inFront before
    obtain ⟨package₂, members₂⟩ := visits.members inBody grows.ownMembers
    exact (refers.qualifies_iff (refers.lacking (visits.lacking inBody)) parts compiled
      ((package₂.trans grows.package).trans inPackage) members₂ unlocal other).1

open Core (leafOf nameTree referenceTree numeralTree)

def parameterTrees (id parameter : String) : List (Tree Token) :=
  [leafOf .PROCEDURE "procedure", identifierTree id, leafOf .LEFT_PAREN "(",
    .node .parameter [.node .parameterName [identifierTree parameter]],
    leafOf .RIGHT_PAREN ")", leafOf .IS "is"]

def repeatedTree (id : String) : Tree Token :=
  .node .body
    [leafOf .BEGIN "begin",
      .node .seqOfStatements
        [.node .statement [assignmentTree id], leafOf .SEMICOLON ";",
          .node .statement
            [.node .block
              [leafOf .DECLARE "declare",
                .node .declareSpec [routineTree "z" (assignmentTree id)]]]],
      leafOf .END "end"]

def memberScope : Scope :=
  { package := some "K", declared := ["K", "X"], ownMembers := none }

def shadowScope : Scope :=
  { package := some "K", declared := ["X"], ownMembers := some ["K", "X"] }

lemma compile_parameterTrees :
    ∃ ds, compileAll "" (parameterTrees "p" "x") (memberScope.routine.declareAll
      (parameterNames (parameterTrees "p" "x" ++ [repeatedTree "x"]))) = .ok (ds, shadowScope) :=
  ⟨_, by with_unfolding_all rfl⟩

lemma reaches_assigned :
    Reaches "" shadowScope (repeatedTree "x") shadowScope (referenceTree "x") := by
  refine .inside (.inl (by decide)) (show _ = [_] ++ _ :: _ from rfl) rfl ?_
  refine .first (.inl (by decide)) ?_
  refine .first (.inl (by decide)) ?_
  exact .first (.inl (by decide)) .here

lemma visits_repeated :
    Visits "" shadowScope (repeatedTree "x") shadowScope.routine (referenceTree "x") := by
  refine .inside (.inl (by decide)) (show _ = [_] ++ _ :: _ from rfl) rfl ?_
  obtain ⟨ds, before⟩ : ∃ ds, compileAll "" [.node .statement [assignmentTree "x"],
      leafOf .SEMICOLON ";"] shadowScope = .ok (ds, shadowScope) := ⟨_, by with_unfolding_all rfl⟩
  refine .inside (.inl (by decide)) (show _ = [_, _] ++ _ :: _ from rfl) before ?_
  refine .first (.inl (by decide)) ?_
  refine .inside (.inl (by decide)) (show _ = [_] ++ _ :: _ from rfl) rfl ?_
  refine .first (.inl (by decide)) ?_
  exact visits_routine (.first (.inl (by decide)) .here)

theorem parameter_shadows_variable :
    ∃ fs s₄, Reaches "" shadowScope (repeatedTree "x") shadowScope (referenceTree "x") ∧
      compile "" (referenceTree "x") shadowScope = .ok (fs, s₄) ∧ Bare "X" fs ∧
      s₄.imports = [] := by
  have names : namesOf [.node .idExpression [nameTree "x"]] .idExpression = ["X"] := by decide +kernel
  have parts : compileAll "" [.node .generalElementPart [.node .idExpression [nameTree "x"]]]
      shadowScope = .ok ([.call (.ident "X") []], shadowScope) := by with_unfolding_all rfl
  have compiled : compile "" (referenceTree "x") shadowScope =
      .ok ([.call (.ident "X") []], shadowScope) := by with_unfolding_all rfl
  have parameters : parameterNames (parameterTrees "p" "x" ++ [repeatedTree "x"]) = ["X"] := by decide +kernel
  obtain ⟨ds, before⟩ := compile_parameterTrees
  obtain ⟨shadows, -⟩ := own_declaration_shadows (s := memberScope) rfl (by decide)
    (.parameter (by rw [parameters]; exact mem_singleton_self _)) before (.reference names)
    parts compiled
  obtain ⟨bare, unimported⟩ := shadows reaches_assigned
  exact ⟨_, _, reaches_assigned, compiled, bare, unimported⟩

/-- In the procedure of the block the variable of the package is not hidden. -/
theorem parameter_of_outer_routine_qualified :
    ∃ ds fs s₄, compileAll "" (parameterTrees "p" "x") (memberScope.routine.declareAll
        (parameterNames (parameterTrees "p" "x" ++ [repeatedTree "x"]))) = .ok (ds, shadowScope) ∧
      Visits "" shadowScope (repeatedTree "x") shadowScope.routine (referenceTree "x") ∧
      compile "" (referenceTree "x") shadowScope.routine = .ok (fs, s₄) ∧ ¬ Bare "X" fs := by
  have compiled : compile "" (referenceTree "x") shadowScope.routine =
      .ok ([.call (.member (.ident "K") "X") []], shadowScope.routine) := by
    with_unfolding_all rfl
  obtain ⟨ds, before⟩ := compile_parameterTrees
  refine ⟨ds, _, _, before, visits_repeated, compiled, ?_⟩
  rintro ⟨d, same, begins⟩
  cases same
  exact absurd (Except.ok.inj begins.rootOf) (by decide)

end BlockScript.Compile
