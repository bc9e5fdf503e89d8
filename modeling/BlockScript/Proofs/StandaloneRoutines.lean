import BlockScript.Proofs.Agreement
import BlockScript.Proofs.PackageMembers
import BlockScript.Proofs.RoutinePieces

/-!
Routines that stand by themselves and routines that a block declares.
-/

namespace BlockScript

def Draft.leading? : Draft → Option Draft
  | .program body =>
    match body.find? fun | .importAll _ => false | _ => true with
    | some (.expr d) => d.opened.head?
    | _ => none
  | _ => none

namespace Compile

inductive BeginsWith (t : Tree Token) : Tree Token → Prop where
  | mk : BeginsWith t (.node .sqlScript (.node .unitStatement [t] :: ts))

inductive DeclaresOnly (t : Tree Token) : Tree Token → Prop where
  | mk (word : IsLeaf .DECLARE w) :
      DeclaresOnly t (.node .anonymousBlock
        (w :: .node .seqOfDeclareSpecs [.node .declareSpec [t]] :: ts))

section

variable {source text : String} {parts : List Draft}

lemma compileAll_behind (name : compile source t s = .ok ([d], s)) : compileAll source (t :: ts) s =
      (compileAll source ts s).map fun (parts, s') => (d :: parts, s') := by
  rw [compileAll]
  simp only [bind, StateT.bind, name, Except.bind]
  rcases compileAll source ts s with reason | ⟨parts, s'⟩ <;> rfl

lemma compile_wrapped (is : kind ∈ [.procedureName, .functionName]) (id : IsIdentifier t) :
    compile source (.node kind [t]) s = .ok ([.ident t.capitals], s) := by
  fin_cases is <;>
  exact compile_of_parts (compileAll_single (compile_identifier id)) rfl

def Routine.scope (r : Routine) (s : Scope) : Scope :=
  s.routine.declareAll (parameterNames r.parameters)

lemma compile_alone (is : kind ∈ [.createProcedureBody, .createFunctionBody]) :
    compile source (.node kind ts) s = (do
      let (parts, _) ← compileAll source ts s.standalone
      let (name, f) ← standalone parts
      return ([f], s.declare name)) := by
  fin_cases is
  all_goals
    refine (within_run).trans ?_
    rcases compileAll source ts s.standalone with reason | ⟨parts, s'⟩
    · rfl
    · simp only [bind, Except.bind]
      rcases standalone parts with reason | ⟨name, f⟩ <;> rfl

section

variable (routine : IsRoutine text r)
include routine

lemma StandsAlone.compiled (places : Places text source move) (alone : StandsAlone r move t) :
    compile source t s = (do
      let (parts, _) ← compileAll text r.pieces s.standalone
      let (name, f) ← standalone (.ident r.name.capitals :: parts)
      return ([f], s.declare name)) := by
  obtain ⟨offset, displaces, stands⟩ := places
  obtain ⟨kind, inner, ts, rfl, is, names, parts⟩ : ∃ kind inner ts, t = .node kind ts ∧
      kind ∈ [.createProcedureBody, .createFunctionBody] ∧
      inner ∈ [.procedureName, .functionName] ∧
      phrases ts = Tree.mapAll move (.node inner [r.name] :: r.pieces) := by
    rcases alone with parts | parts <;> exact ⟨_, _, _, rfl, by decide, by decide, parts⟩
  have lies : ∀ t ∈ .node inner [r.name] :: r.pieces, LiesIn text t := by
    refine forall_mem_cons.2 ⟨fun token inside => ?_, fun t mem =>
      routine.lies t (mem_cons_of_mem _ mem)⟩
    refine routine.lies r.name mem_cons_self token ?_
    simpa [Tree.leaves, Tree.leavesAll] using inside
  rw [compile_alone is, compileAll_phrases, parts, compileAll_displaced displaces stands _ lies,
    compileAll_behind (compile_wrapped names routine.name)]
  rcases compileAll text r.pieces s.standalone with reason | ⟨parts, s'⟩ <;> rfl

lemma IsRoutine.parameterNames :
    parameterNames (r.name :: r.pieces) = parameterNames r.parameters := by
  obtain ⟨tokens, named⟩ := routine.name
  have others : ∀ t ∈ r.result.toList.map (Tree.node .typeSpec) ++ r.code,
      ¬ (t.kind? == some .parameter) = true := by
    intro t mem
    simp only [mem_append, mem_map, mem_singleton, Routine.code, Routine.declaring] at mem
    rcases mem with ⟨us, -, rfl⟩ | declared | rfl
    · simp [Tree.kind?]
    · split at declared
      · cases declared
      · cases mem_singleton.1 declared
        simp [Tree.kind?]
    · simp [Tree.kind?]
  have own : (r.name :: r.pieces).filter (·.kind? == some .parameter) =
      r.parameters.filter (·.kind? == some .parameter) := by
    rw [named, List.filter_cons_of_neg (by simp [Tree.kind?]), Routine.pieces, filter_append,
      filter_eq_nil_iff.2 others, append_nil]
  rw [Compile.parameterNames, Compile.parameterNames, own]

lemma IsDeclared.compiled (places : Places text source move) (declared : IsDeclared r move t) :
    compile source t s = (do
      let (parts, inner) ← compileAll text r.pieces (r.scope s)
      let (name, f) ← Compile.routine (.ident r.name.capitals :: parts)
      return ([f], (s.declare name).requireAll inner.imports)) := by
  obtain ⟨offset, displaces, stands⟩ := places
  obtain ⟨kind, ts, rfl, is, parts⟩ : ∃ kind ts, t = .node kind ts ∧ kind ∈ routines ∧
      phrases ts = Tree.mapAll move (r.name :: r.pieces) := by
    cases declared <;> exact ⟨_, _, rfl, by decide, ‹_›⟩
  rw [compile_declared is, compileAll_phrases, parameterNames_phrases, parts,
    parameterNames_mapAll (Displaces.keepsWords displaces), routine.parameterNames,
    compileAll_displaced displaces stands _ routine.lies,
    compileAll_behind (compile_identifier routine.name)]
  change _ = (compileAll text r.pieces (s.routine.declareAll _) >>= _)
  rcases compileAll text r.pieces (s.routine.declareAll (Compile.parameterNames r.parameters))
    with reason | ⟨parts, s'⟩ <;> rfl

lemma StandsAlone.drafted (places : Places text source move) (alone : StandsAlone r move t)
    (comp : compile source t {} = .ok (ds, s')) :
    ∃ ps ms bs s1 s2, compileAll text r.pieces {} = .ok (ps ++ (ms ++ bs), s1) ∧
      compileAll text r.parameters {} = .ok (ps, s2) ∧ IsAssembled ps ms bs ∧
      ds = [.function r.name.capitals ps bs []] := by
  rw [alone.compiled routine places] at comp
  obtain ⟨⟨parts, s1⟩, pieces, rest⟩ := steps_of_bind comp
  obtain ⟨ps, ms, bs, s2, params, assembled, rfl⟩ := routine.drafted pieces
  dsimp only at rest
  rw [assembled.standalone] at rest
  cases rest
  exact ⟨ps, ms, bs, s1, s2, pieces, params, assembled, rfl⟩

lemma IsDeclared.drafted (places : Places text source move) (declared : IsDeclared r move t)
    (comp : compile source t {} = .ok (ds, s')) :
    ∃ ps ms bs s1 s2, compileAll text r.pieces (r.scope {}) = .ok (ps ++ (ms ++ bs), s1) ∧
      compileAll text r.parameters (r.scope {}) = .ok (ps, s2) ∧ IsAssembled ps ms bs ∧
      ds = [.function r.name.capitals ps (bs.map Draft.asStatement) []] := by
  rw [declared.compiled routine places] at comp
  obtain ⟨⟨parts, s1⟩, pieces, rest⟩ := steps_of_bind comp
  obtain ⟨ps, ms, bs, s2, params, assembled, rfl⟩ := routine.drafted pieces
  dsimp only at rest
  rw [assembled.routine] at rest
  split at rest
  · cases rest
  · cases rest
    exact ⟨ps, ms, bs, s1, s2, pieces, params, assembled, rfl⟩

end

lemma leading_program (packages d rest) :
    (Draft.program (imports [] packages ++ .expr d :: rest)).leading? = d.opened.head? := by
  have behind : (imports [] packages ++ .expr d :: rest).find?
      (fun | .importAll _ => false | _ => true) = some (.expr d) := by
    rw [List.find?_append, List.find?_eq_none.2, Option.none_or, List.find?_cons_of_pos rfl]
    intro x mem
    obtain ⟨name, -, rfl⟩ := mem_map.1 mem
    simp
  rw [Draft.leading?, behind]

lemma BeginsWith.leads (begins : BeginsWith t u) (comp : Compile.script ⟨source, u⟩ = .ok p) :
    ∃ ds s, compile source t {} = .ok (ds, s) ∧
      ∀ e es, ds = e :: es → e.isExpr = false → p.leading? = e.opened.head? := by
  obtain ⟨⟩ := begins
  obtain ⟨⟨parts, s1⟩, whole, given⟩ := steps_of_bind comp
  obtain ⟨units, s2, inner, rest⟩ := bind_inv whole
  cases rest
  cases given
  obtain ⟨own, others, s3, first, -, rfl⟩ := compileAll_cons_inv inner
  obtain ⟨ds, s4, unit, made⟩ := parts_of_compile first
  cases made
  refine ⟨_, _, compileAll_single_inv unit, ?_⟩
  rintro e es rfl plain
  rw [map_cons, Draft.asStatement, plain]
  exact leading_program _ e _

lemma DeclaresOnly.drafted (only : DeclaresOnly t u) (comp : compile source u {} = .ok (ds, s')) :
    ∃ es s rest, compile source t {} = .ok (es, s) ∧ ds = body (es ++ rest) := by
  obtain ⟨word⟩ := only
  obtain ⟨parts, s1, inner, made⟩ := parts_of_compile comp
  cases made
  rw [word.skip] at inner
  obtain ⟨own, others, s2, first, -, rfl⟩ := compileAll_cons_inv inner
  obtain ⟨declared, s3, seq, modified⟩ := parts_of_compile first
  obtain ⟨names, s4, -, rest⟩ := bind_inv modified
  cases rest
  obtain ⟨es, s5, item, same⟩ := parts_of_compile (compileAll_single_inv seq)
  cases same
  exact ⟨_, _, others, compileAll_single_inv item, rfl⟩

lemma body_leading (code : d.isHandler = false ∧ d.isName = false ∧ d.isExpr = false)
    (opened : d.opened = [d]) (rest) :
    ∃ e es, body (d :: rest) = e :: es ∧ e.isExpr = false ∧ e.opened.head? = some d := by
  have kept : ∃ es, unnamed ((d :: rest).filter (!·.isHandler)) = d :: es := by
    rw [List.filter_cons_of_pos (by simp [code.1])]
    unfold unnamed
    split
    case _ label last =>
      cases others : rest.filter (!·.isHandler) with
      | nil =>
        rw [others] at last
        cases last
        exact absurd code.2.1 nofun
      | cons next others => exact ⟨_, rfl⟩
    · exact ⟨_, rfl⟩
  obtain ⟨es, kept⟩ := kept
  rw [body_eq, kept]
  split
  · exact ⟨d, es, rfl, code.2.2, by rw [opened]; rfl⟩
  · exact ⟨_, [], rfl, rfl, rfl⟩

lemma IsParameter.drafted (parameter : IsParameter t) :
    ∃ d, ∀ s ds s', compile source t s = .ok (ds, s') → ds = [d] := by
  obtain @⟨name, ts, id⟩ := parameter
  refine ⟨.parameter (.ident name.capitals), fun s ds s' comp => ?_⟩
  obtain ⟨parts, s1, inner, made⟩ := parts_of_compile comp
  obtain ⟨own, others, s2, first, -, rfl⟩ := compileAll_cons_inv inner
  have named : compile source (.node .parameterName [name]) s = .ok ([.ident name.capitals], s) :=
    compile_of_parts (compileAll_single (compile_identifier id)) rfl
  cases named.symm.trans first
  cases made
  rfl

lemma parameters_same (regular : ∀ t ∈ ts, IsParameter t)
    (here : compileAll source ts a = .ok (ps, a')) (there : compileAll source ts b = .ok (qs, b')) :
    ps = qs := by
  induction ts generalizing a b ps qs with
  | nil => simp_all
  | cons t ts ih =>
    obtain ⟨parameter, others⟩ := forall_mem_cons.1 regular
    obtain ⟨d, drafted⟩ := @IsParameter.drafted source t parameter
    obtain ⟨p, ps, a1, first, rest, rfl⟩ := compileAll_cons_inv here
    obtain ⟨q, qs, b1, first', rest', rfl⟩ := compileAll_cons_inv there
    rw [drafted _ _ _ first, drafted _ _ _ first', ih others rest rest']

lemma alike_scope (r : Routine) : Scope.Alike (parameterNames r.parameters) {} (r.scope {}) := by
  refine ⟨rfl, ⟨[], rfl, rfl, fun _ _ => not_mem_nil⟩, fun name => ?_⟩
  simp [Routine.scope, Scope.declareAll, Scope.routine, Scope.mem_addAllNew]

end

section

variable {source source' text : String} {r : Routine} {move move' : Token → Token}
  {unit item block whole around : Tree Token}

/-- A routine by itself and the same routine as the only declaration of a block have the same name
and the same parameters. They also have the same body, up to the wrapping of its statements, and are
rejected alike, if no parameter has a standard name and no query mentions a parameter; but a
declared routine must not be empty. -/
theorem standalone_like_declared (routine : IsRoutine text r) (here : Places text source move)
    (there : Places text source' move') (alone : StandsAlone r move unit)
    (declared : IsDeclared r move' item) (first : BeginsWith unit whole)
    (only : DeclaresOnly item block) (other : BeginsWith block around) :
    (∀ p q, (∀ t ∈ r.parameters, IsParameter t) → Compile.script ⟨source, whole⟩ = .ok p →
      Compile.script ⟨source', around⟩ = .ok q →
      ∃ name ps bs cs, p.leading? = some (.function name ps bs []) ∧
        q.leading? = some (.function name ps cs [])) ∧
    ((∀ name ∈ parameterNames r.parameters,
        name ∉ Scope.standard ∧ name ∉ queriedAll r.pieces) →
      (∀ p q, Compile.script ⟨source, whole⟩ = .ok p → Compile.script ⟨source', around⟩ = .ok q →
        ∃ name ps bs, p.leading? = some (.function name ps bs []) ∧
          q.leading? = some (.function name ps (bs.map Draft.asStatement) [])) ∧
      (∀ reason, compile source unit {} = .error reason →
        compile source' item {} = .error reason) ∧
      ∀ reason, compile source' item {} = .error reason →
        compile source unit {} = .error reason ∨ reason = .lacking ∧
          ∃ name ps s, compile source unit {} = .ok ([.function name ps [] []], s)) := by
  -- The first draft of each program is the routine, put together from its pieces.
  have left (p) (compiled : Compile.script ⟨source, whole⟩ = .ok p) :
      ∃ ps ms bs s₁ s₂, compileAll text r.pieces {} = .ok (ps ++ (ms ++ bs), s₁) ∧
        compileAll text r.parameters {} = .ok (ps, s₂) ∧ IsAssembled ps ms bs ∧
        p.leading? = some (.function r.name.capitals ps bs []) := by
    obtain ⟨ds, s, given, leads⟩ := first.leads compiled
    obtain ⟨ps, ms, bs, s₁, s₂, pieces, parameters, assembled, rfl⟩ :=
      alone.drafted routine here given
    exact ⟨ps, ms, bs, s₁, s₂, pieces, parameters, assembled, leads _ _ rfl rfl⟩
  have right (q) (compiled : Compile.script ⟨source', around⟩ = .ok q) :
      ∃ ps ms bs s₁ s₂, compileAll text r.pieces (r.scope {}) = .ok (ps ++ (ms ++ bs), s₁) ∧
        compileAll text r.parameters (r.scope {}) = .ok (ps, s₂) ∧ IsAssembled ps ms bs ∧
        q.leading? = some (.function r.name.capitals ps (bs.map Draft.asStatement) []) := by
    obtain ⟨ds, s, given, leads⟩ := other.leads compiled
    obtain ⟨es, s₀, rest, inner, rfl⟩ := only.drafted given
    obtain ⟨ps, ms, bs, s₁, s₂, pieces, parameters, assembled, rfl⟩ :=
      declared.drafted routine there inner
    obtain ⟨e, es, begins, plain, opened⟩ := body_leading
      (d := .function r.name.capitals ps (bs.map Draft.asStatement) []) ⟨rfl, rfl, rfl⟩ rfl rest
    exact ⟨ps, ms, bs, s₁, s₂, pieces, parameters, assembled,
      (leads e es begins plain).trans opened⟩
  refine ⟨fun p q regular compiled compiled' => ?_, fun apart => ?_⟩
  · obtain ⟨ps, ms, bs, s₁, s₂, -, parameters, -, leads⟩ := left p compiled
    obtain ⟨ps', ms', bs', s₁', s₂', -, parameters', -, leads'⟩ := right q compiled'
    rw [← parameters_same regular parameters parameters'] at leads'
    exact ⟨_, ps, bs, _, leads, leads'⟩
  -- The pieces come out the same whether or not the parameters are declared.
  have same : SameOutcome (parameterNames r.parameters) (compileAll text r.pieces {})
      (compileAll text r.pieces (r.scope {})) :=
    blind_compileAll (fun name member => (apart name member).1) r.pieces routine.inner
      (fun name member => (apart name member).2) {} (r.scope {}) (alike_scope r)
  refine ⟨fun p q compiled compiled' => ?_, ?_⟩
  · obtain ⟨ps, ms, bs, s₁, s₂, pieces, -, assembled, leads⟩ := left p compiled
    obtain ⟨ps', ms', bs', s₁', s₂', pieces', -, assembled', leads'⟩ := right q compiled'
    rw [pieces, pieces'] at same
    generalize parted : ps ++ (ms ++ bs) = parts at same
    cases same
    have routine := assembled'.standalone r.name.capitals
    rw [← parted, assembled.standalone] at routine
    cases routine
    exact ⟨_, ps, bs, leads, leads'⟩
  · have outcome : compile source unit {} = _ := alone.compiled routine here
    have outcome' : compile source' item {} = _ := declared.compiled routine there
    change _ = (compileAll text r.pieces {} >>= _) at outcome
    generalize given : compileAll text r.pieces {} = own at same outcome
    generalize compileAll text r.pieces (r.scope {}) = others at same outcome'
    cases same with
    | error =>
      rw [outcome, outcome']
      exact ⟨fun _ rejected => rejected, fun _ rejected => .inl rejected⟩
    | ok alike =>
      obtain ⟨ps, ms, bs, s₂, -, assembled, rfl⟩ := routine.drafted given
      simp only [bind, Except.bind, assembled.standalone, assembled.routine] at outcome outcome'
      rw [outcome, outcome']
      refine ⟨by rintro _ ⟨⟩, fun reason rejected => .inr ?_⟩
      by_cases empty : ms = [] ∧ bs = []
      · rw [if_pos empty] at rejected
        cases rejected
        rw [empty.2]
        exact ⟨rfl, _, ps, _, rfl⟩
      · rw [if_neg empty] at rejected
        cases rejected

end

open Core (leafOf nameTree)

def parameterTree (id : String) : Tree Token :=
  .node .parameter [.node .parameterName [identifierTree id],
    .node .typeSpec [.node .datatype [.node .nativeDatatypeElement [leafOf .NUMBER "number"]]]]

def inserting (parameter : String) : Routine where
  name := identifierTree "p"
  parameters := [parameterTree parameter]
  result := none
  declarations := []
  body := [leafOf .BEGIN "begin",
    .node .seqOfStatements [.node .statement [.node .sqlStatement [Query.insertionTree]],
      leafOf .SEMICOLON ";"],
    leafOf .END "end"]

def movedBy (offset : Nat) (token : Token) : Token :=
  { token with start := token.start + offset, stop := token.stop + offset }

def unitTree (r : Routine) (offset : Nat) : Tree Token :=
  .node .createProcedureBody (leafOf .CREATE "create" :: leafOf .PROCEDURE "procedure" ::
    (Tree.mapAll (movedBy offset) (.node .procedureName [r.name] :: r.pieces) ++
      [leafOf .SEMICOLON ";"]))

def itemTree (r : Routine) (offset : Nat) : Tree Token :=
  .node .procedureBody (leafOf .PROCEDURE "procedure" ::
    (Tree.mapAll (movedBy offset) (r.name :: r.pieces) ++ [leafOf .SEMICOLON ";"]))

def blockTree (item : Tree Token) : Tree Token :=
  .node .anonymousBlock [leafOf .DECLARE "declare",
    .node .seqOfDeclareSpecs [.node .declareSpec [item]], leafOf .BEGIN "begin",
    .node .seqOfStatements [.node .statement [.node .nullStatement [leafOf .NULL "null"]],
      leafOf .SEMICOLON ";"],
    leafOf .END "end", leafOf .SEMICOLON ";"]

def scriptTree (unit : Tree Token) : Tree Token := .node .sqlScript [.node .unitStatement [unit]]

def unitText (parameter : String) : String :=
  "create procedure p(" ++ parameter ++ " number) is begin " ++ Query.insertionText ++ "; end;"

def blockText (parameter : String) : String :=
  "declare procedure p(" ++ parameter ++ " number) is begin " ++ Query.insertionText ++
    "; end; begin null; end;"

lemma isRoutine_inserting (parameter) : IsRoutine Query.insertionText (inserting parameter) where
  name := isIdentifier_tree "p"
  parameters := by
    intro p mem
    rw [mem_singleton.1 mem]
    exact ⟨_, rfl⟩
  declarations := nofun
  body := by
    have seq : ∀ t ∈ [Tree.node .statement [.node .sqlStatement [Query.insertionTree]],
        leafOf .SEMICOLON ";"], IsCode t := by
      simp only [forall_mem_cons, not_mem_nil, false_implies, implies_true, and_true]
      exact ⟨.own (by decide), .word⟩
    simp only [inserting, forall_mem_cons, not_mem_nil, false_implies, implies_true, and_true]
    exact ⟨.word, .frame (by decide) seq, .word⟩
  inner := by rfl
  lies := by
    have stops : ∀ stop ∈ (Tree.leavesAll ((inserting parameter).name ::
        (inserting parameter).pieces)).map Token.stop, stop < Query.insertionText.length := by
      change ∀ stop ∈ (Tree.leavesAll ((inserting "").name :: (inserting "").pieces)).map
        Token.stop, stop < Query.insertionText.length
      decide +kernel
    intro t mem token inside
    refine stops _ (mem_map_of_mem ?_)
    exact List.mem_flatMap_of_mem mem inside

lemma places_movedBy {text : String} (stands : StandsAt text source offset) :
    Places text source (movedBy offset) :=
  ⟨offset, fun _ => ⟨rfl, rfl, rfl, rfl⟩, stands⟩

lemma standsAlone_inserting (parameter) (offset : Nat) :
    StandsAlone (inserting parameter) (movedBy offset) (unitTree (inserting parameter) offset) :=
  .procedure rfl

lemma isDeclared_inserting (parameter) (offset : Nat) :
    IsDeclared (inserting parameter) (movedBy offset) (itemTree (inserting parameter) offset) :=
  .procedure rfl

lemma declaresOnly_blockTree (t) : DeclaresOnly t (blockTree t) := .mk ⟨_, rfl⟩

def insertingDraft (parameter sql : String) (references : List Reference) : Draft :=
  .function "P" [.parameter (.ident parameter)] [.expr (execution sql references)] []

lemma insertion_names :
    ["users", "rc", "id"].map (fun id => (nameTree id).capitals) = ["USERS", "RC", "ID"] := by decide +kernel

lemma inserting_apart : ∀ name ∈ parameterNames (inserting "a").parameters,
    name ∉ Scope.standard ∧ name ∉ queriedAll (inserting "a").pieces := by
  have names : parameterNames (inserting "a").parameters = ["A"] := by decide +kernel
  have mentioned : queriedAll (inserting "a").pieces =
      ["users", "rc", "id"].map fun id => (nameTree id).capitals := rfl
  rw [names, mentioned, insertion_names]
  decide

theorem unmentioned_parameter_alike :
    ∃ p q, Compile.script ⟨unitText "a", scriptTree (unitTree (inserting "a") 38)⟩ = .ok p ∧
      Compile.script ⟨blockText "a", scriptTree (blockTree (itemTree (inserting "a") 39))⟩ =
        .ok q ∧
      ∃ name ps bs, p.leading? = some (.function name ps bs []) ∧
        q.leading? = some (.function name ps (bs.map Draft.asStatement) []) := by
  have here : StandsAt Query.insertionText (unitText "a") 38 := by
    unfold StandsAt
    decide +kernel
  have there : StandsAt Query.insertionText (blockText "a") 39 := by
    unfold StandsAt
    decide +kernel
  obtain ⟨p, compiled⟩ : ∃ p, Compile.script
      ⟨unitText "a", scriptTree (unitTree (inserting "a") 38)⟩ = .ok p :=
    ⟨_, by with_unfolding_all rfl⟩
  obtain ⟨q, compiled'⟩ : ∃ q, Compile.script
      ⟨blockText "a", scriptTree (blockTree (itemTree (inserting "a") 39))⟩ = .ok q :=
    ⟨_, by with_unfolding_all rfl⟩
  obtain ⟨-, alike⟩ := standalone_like_declared (isRoutine_inserting "a") (places_movedBy here)
    (places_movedBy there) (standsAlone_inserting "a" 38) (isDeclared_inserting "a" 39) .mk
    (declaresOnly_blockTree _) .mk
  exact ⟨p, q, compiled, compiled', (alike inserting_apart).1 p q compiled compiled'⟩

set_option maxRecDepth 2000 in
/-- An insertion of a field of a parameter is bound to it only in the block. -/
theorem mentioned_parameter_unlike :
    ∃ p q, Compile.script ⟨unitText "rc", scriptTree (unitTree (inserting "rc") 39)⟩ = .ok p ∧
      Compile.script ⟨blockText "rc", scriptTree (blockTree (itemTree (inserting "rc") 40))⟩ =
        .ok q ∧
      ¬ ∃ name ps bs, p.leading? = some (.function name ps bs []) ∧
        q.leading? = some (.function name ps (bs.map Draft.asStatement) []) := by
  obtain ⟨p, compiled, leads⟩ : ∃ p, Compile.script
      ⟨unitText "rc", scriptTree (unitTree (inserting "rc") 39)⟩ = .ok p ∧
        p.leading? = some (insertingDraft "RC" Query.insertionText []) :=
    ⟨_, by with_unfolding_all rfl, by with_unfolding_all rfl⟩
  obtain ⟨q, compiled', leads'⟩ : ∃ q, Compile.script
      ⟨blockText "rc", scriptTree (blockTree (itemTree (inserting "rc") 40))⟩ = .ok q ∧
        q.leading? = some (insertingDraft "RC" Query.insertionQuery [Query.insertionReference]) :=
    ⟨_, by with_unfolding_all rfl, by with_unfolding_all rfl⟩
  refine ⟨p, q, compiled, compiled', ?_⟩
  rintro ⟨name, ps, bs, alone, declared⟩
  rw [leads] at alone
  rw [leads'] at declared
  cases alone
  have same : execution Query.insertionQuery [Query.insertionReference] =
      execution Query.insertionText [] := by
    injection declared with declared
    injection declared with _ _ bodies
    injection bodies with statement
    injection statement
  injection same with _ arguments
  injection arguments with text
  injection text with text
  injection text with text
  exact absurd text (by decide +kernel)

end Compile
end BlockScript
