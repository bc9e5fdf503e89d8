import BlockScript.Proofs.Displacement
import BlockScript.Proofs.Indifference
import BlockScript.Proofs.NestedBlocks
import BlockScript.Proofs.Visits

/-!
The pieces of a routine. Besides its name a routine compiles to its parameters, the mark of the type
that it returns, and what it declares and does, in this order; the last are neither parameters nor
types.
-/

namespace BlockScript

namespace Compile

def phrases (ts : List (Tree Token)) : List (Tree Token) := ts.filter (·.kind?.isSome)

def codeFrames : List Nonterminal :=
  [.body, .seqOfStatements, .seqOfDeclareSpecs, .declareSpec, .exceptionDeclaration,
    .labelDeclaration, .labelName, .identifier, .idExpression]

inductive IsCode : Tree Token → Prop where
  | word : IsCode (.leaf token)
  | own (is : kind ∈ codeKinds) : IsCode (.node kind ts)
  | frame (is : kind ∈ codeFrames) (inner : ∀ t ∈ ts, IsCode t) : IsCode (.node kind ts)

/-- A routine: its name, its parameters, the type that it returns if it is a function, what it
declares and what it does. -/
structure Routine where
  name : Tree Token
  parameters : List (Tree Token)
  result : Option (List (Tree Token))
  declarations : List (Tree Token)
  body : List (Tree Token)

namespace Routine

def declaring (r : Routine) : List (Tree Token) :=
  if r.declarations.isEmpty then [] else [.node .seqOfDeclareSpecs r.declarations]

def code (r : Routine) : List (Tree Token) := r.declaring ++ [.node .body r.body]

def pieces (r : Routine) : List (Tree Token) :=
  r.parameters ++ (r.result.toList.map (.node .typeSpec) ++ r.code)

end Routine

structure IsRoutine (text : String) (r : Routine) : Prop where
  name : IsIdentifier r.name
  parameters : ∀ p ∈ r.parameters, ∃ ts, p = .node .parameter ts
  declarations : ∀ d ∈ r.declarations, IsCode d
  body : ∀ t ∈ r.body, IsCode t
  inner : lacksAll units r.pieces = true
  lies : ∀ t ∈ r.name :: r.pieces, LiesIn text t

def Places (text source : String) (move : Token → Token) : Prop :=
  ∃ offset, Displaces offset move ∧ StandsAt text source offset

inductive IsParameter : Tree Token → Prop where
  | mk (id : IsIdentifier t) : IsParameter (.node .parameter (.node .parameterName [t] :: ts))

inductive StandsAlone (r : Routine) (move : Token → Token) : Tree Token → Prop where
  | procedure
      (parts : phrases ts = Tree.mapAll move (.node .procedureName [r.name] :: r.pieces)) :
      StandsAlone r move (.node .createProcedureBody ts)
  | function (parts : phrases ts = Tree.mapAll move (.node .functionName [r.name] :: r.pieces)) :
      StandsAlone r move (.node .createFunctionBody ts)

inductive IsDeclared (r : Routine) (move : Token → Token) : Tree Token → Prop where
  | procedure (parts : phrases ts = Tree.mapAll move (r.name :: r.pieces)) :
      IsDeclared r move (.node .procedureBody ts)
  | function (parts : phrases ts = Tree.mapAll move (r.name :: r.pieces)) :
      IsDeclared r move (.node .functionBody ts)

lemma compileAll_phrases (ts) : compileAll src ts s = compileAll src (phrases ts) s := by
  induction ts generalizing s with
  | nil => rfl
  | cons t ts ih =>
    cases t with
    | leaf token =>
      rw [compileAll_leaf]
      exact ih
    | node kind children => exact compileAll_congr fun s => ih

lemma filter_phrases (kind ts) :
    (phrases ts).filter (·.kind? == some kind) = ts.filter (·.kind? == some kind) := by
  rw [phrases, List.filter_filter]
  refine List.filter_congr fun t mem => ?_
  cases t <;> simp [Tree.kind?]

lemma parameterNames_phrases (ts) : parameterNames ts = parameterNames (phrases ts) := by
  rw [parameterNames, parameterNames, filter_phrases]

lemma within_run {enter : Scope → Scope} {body : Compile α} :
    (get >>= fun s => within (enter s) body >>= f) s =
      (body (enter s) >>= fun result => f result s) := by
  change (within (enter s) body >>= f) s = _
  simp only [within, StateT.run]
  rcases body (enter s) with reason | result <;> rfl

lemma compile_declared (is : kind ∈ routines) : compile src (.node kind ts) s = (do
      let (parts, inner) ← compileAll src ts (s.routine.declareAll (parameterNames ts))
      let (name, f) ← routine parts
      return ([f], (s.declare name).requireAll inner.imports)) := by
  fin_cases is
  all_goals
    refine (within_run).trans ?_
    rcases compileAll src ts (s.routine.declareAll (parameterNames ts)) with
      reason | ⟨parts, inner⟩
    · rfl
    · simp only [bind, Except.bind]
      rcases routine parts with reason | ⟨name, f⟩ <;> rfl

def IsStanding (d : Draft) : Prop := d.isParameter = false ∧ d.isTypeMark = false

def AllStanding (ds : List Draft) : Prop := ∀ d ∈ ds, IsStanding d

lemma standing_of_makes (other : kind ∉ [.parameter, .typeSpec]) (makes : makes kind d = true) :
    IsStanding d := by
  rw [mem_cons, mem_singleton, not_or] at other
  cases d with
  | parameter name => exact absurd (eq_of_beq makes) other.1
  | typeMark type => exact absurd (eq_of_beq makes) other.2
  | _ => exact ⟨rfl, rfl⟩

lemma code_not_typed : ∀ kind ∈ codeKinds ++ codeFrames, kind ∉ [.parameter, .typeSpec] := by
  decide

lemma ComesFrom.standing (comes : ComesFrom d t) (code : IsCode t) : IsStanding d := by
  induction code with
  | word => cases comes
  | own is =>
    cases comes with
    | made makes => exact standing_of_makes (code_not_typed _ (mem_append_left _ is)) makes
    | handed hands _ _ => exact absurd (mem_append_right _ is) hands
  | frame is _ ih =>
    cases comes with
    | made makes => exact standing_of_makes (code_not_typed _ (mem_append_right _ is)) makes
    | handed _ mem comes => exact ih _ mem comes

lemma parameters_drafted (params : ∀ p ∈ ts, ∃ us, p = .node .parameter us)
    (comp : compileAll src ts s = .ok (ds, s')) : ∀ d ∈ ds, d.isParameter = true := by
  induction ts generalizing s ds with
  | nil => simp_all
  | cons p ts ih =>
    obtain ⟨⟨us, rfl⟩, others⟩ := forall_mem_cons.1 params
    obtain ⟨own, later, s1, here, rest, rfl⟩ := compileAll_cons_inv comp
    obtain ⟨parts, s2, -, whole⟩ := parts_of_compile here
    obtain ⟨d, made, rfl⟩ := single_inv whole
    have is : d.isParameter = true := by
      cases parts with
      | nil => cases made
      | cons name parts =>
        cases made
        rfl
    exact forall_mem_cons.2 ⟨is, ih others rest⟩

lemma typeSpec_drafted (comp : compile src (.node .typeSpec ts) s = .ok (ds, s')) :
    ds = [] ∨ ∃ type, ds = [.typeMark type] := by
  rw [compile] at comp
  split at comp
  · cases comp
    exact .inl rfl
  · split at comp
    · cases comp
      exact .inr ⟨_, rfl⟩
    · split at comp
      · obtain ⟨parts, s1, -, rest⟩ := bind_inv comp
        obtain ⟨type, s2, -, made⟩ := bind_inv rest
        cases made
        exact .inr ⟨type, rfl⟩
      · cases comp
        exact .inl rfl

lemma result_drafted (result : Option (List (Tree Token)))
    (comp : compileAll src (result.toList.map (.node .typeSpec)) s = .ok (ds, s')) :
    ds = [] ∨ ∃ type, ds = [.typeMark type] := by
  cases result with
  | none => simp_all
  | some us => exact typeSpec_drafted (compileAll_single_inv comp)

structure IsAssembled (ps ms bs : List Draft) : Prop where
  parameters : ∀ p ∈ ps, p.isParameter = true
  mark : ms = [] ∨ ∃ type, ms = [.typeMark type]
  code : AllStanding bs

lemma IsRoutine.drafted (routine : IsRoutine text r)
    (comp : compileAll src r.pieces s = .ok (ds, s')) :
    ∃ ps ms bs s1, compileAll src r.parameters s = .ok (ps, s1) ∧ IsAssembled ps ms bs ∧
      ds = ps ++ (ms ++ bs) := by
  obtain ⟨ps, rest, s1, front, later, rfl⟩ := compileAll_append_inv comp
  obtain ⟨ms, bs, s2, result, code, rfl⟩ := compileAll_append_inv later
  have pieces : ∀ t ∈ r.code, IsCode t := by
    intro t mem
    rcases mem_append.1 mem with declared | last
    · unfold Routine.declaring at declared
      split at declared
      · cases declared
      · rw [mem_singleton.1 declared]
        exact .frame (by decide) routine.declarations
    · rw [mem_singleton.1 last]
      exact .frame (by decide) routine.body
  have standing : AllStanding bs := by
    intro d mem
    obtain ⟨t, inside, comes⟩ := always_comesAll r.code s2 bs s' code d mem
    exact comes.standing (pieces t inside)
  exact ⟨ps, ms, bs, s1, front,
    ⟨parameters_drafted routine.parameters front, result_drafted _ result, standing⟩, rfl⟩

variable (assembled : IsAssembled ps ms bs)
include assembled

lemma IsAssembled.noParameter : ∀ d ∈ ms ++ bs, d.isParameter = false := by
  intro d mem
  rcases mem_append.1 mem with mark | code
  · rcases assembled.mark with rfl | ⟨type, rfl⟩
    · cases mark
    · cases mem_singleton.1 mark
      rfl
  · exact (assembled.code d code).1

lemma IsAssembled.standalone (name) :
    standalone (.ident name :: (ps ++ (ms ++ bs))) = .ok (name, .function name ps bs []) := by
  have params : (ps ++ (ms ++ bs)).filter Draft.isParameter = ps := by
    rw [filter_append, filter_eq_self.2 assembled.parameters,
      filter_eq_nil_iff.2 (by simpa using assembled.noParameter), append_nil]
  have front : ps.filter (fun d => !d.isParameter && !d.isTypeMark) = [] := by
    refine filter_eq_nil_iff.2 fun d mem => ?_
    simp [assembled.parameters d mem]
  have mark : ms.filter (fun d => !d.isParameter && !d.isTypeMark) = [] := by
    rcases assembled.mark with rfl | ⟨type, rfl⟩ <;> rfl
  have code : bs.filter (fun d => !d.isParameter && !d.isTypeMark) = bs := by
    refine filter_eq_self.2 fun d mem => ?_
    simpa [IsStanding] using assembled.code d mem
  have body : (ps ++ (ms ++ bs)).filter (fun d => !d.isParameter && !d.isTypeMark) = bs := by
    rw [filter_append, filter_append, front, mark, code, nil_append, nil_append]
  change Except.ok (name, Draft.function name ((ps ++ (ms ++ bs)).filter Draft.isParameter)
    ((ps ++ (ms ++ bs)).filter fun d => !d.isParameter && !d.isTypeMark) []) = _
  rw [params, body]

lemma IsAssembled.routine (name) :
    routine (.ident name :: (ps ++ (ms ++ bs))) = if ms = [] ∧ bs = [] then .error .lacking
      else .ok (name, .function name ps (bs.map Draft.asStatement) []) := by
  have behind : (ms ++ bs).takeWhile Draft.isParameter = [] ∧
      (ms ++ bs).dropWhile Draft.isParameter = ms ++ bs := by
    have none := assembled.noParameter
    generalize ms ++ bs = rest at none
    cases rest with
    | nil => exact ⟨rfl, rfl⟩
    | cons d rest => simp [none d mem_cons_self]
  have front : (ps ++ (ms ++ bs)).takeWhile Draft.isParameter = ps := by
    rw [List.takeWhile_append_of_pos assembled.parameters, behind.1, append_nil]
  have back : (ps ++ (ms ++ bs)).dropWhile Draft.isParameter = ms ++ bs := by
    rw [List.dropWhile_append_of_pos assembled.parameters, behind.2]
  have code : (ms ++ bs).eraseP Draft.isTypeMark = bs := by
    have none : ∀ d ∈ bs, ¬ d.isTypeMark = true := fun d mem => by
      simp [(assembled.code d mem).2]
    rcases assembled.mark with rfl | ⟨type, rfl⟩
    · exact List.eraseP_of_forall_not none
    · exact List.eraseP_cons_of_pos rfl
  have empty : (ms ++ bs).isEmpty = true ↔ ms = [] ∧ bs = [] := by simp
  unfold Compile.routine
  simp only [first, bind, Except.bind, front, back, empty, code]
  split
  · rfl
  · rfl

end Compile
end BlockScript
