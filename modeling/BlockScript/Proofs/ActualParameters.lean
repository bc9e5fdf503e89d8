import BlockScript.Proofs.Core.Calls
import BlockScript.Proofs.ReferenceParts
import BlockScript.Proofs.StandaloneRoutines

/-!
Formal and actual parameters. A routine is written without the defaults of its parameters. A call
passes the values of all that its arguments compile to, the name before an arrow among them. So each
parameter is bound to its own argument if and only if none is named and none is left out.
-/

namespace BlockScript

namespace Compile

/-- A formal parameter: its name, and its mode, its type and its default. -/
structure Formal where
  name : Tree Token
  rest : List (Tree Token)

namespace Formal

def tree (f : Formal) : Tree Token := .node .parameter (.node .parameterName [f.name] :: f.rest)

def id (f : Formal) : String := f.name.capitals

def draft (f : Formal) : Draft := .parameter (.ident f.id)

end Formal

inductive AreFormals (formals : List Formal) : List (Tree Token) → Prop where
  | mk (ids : ∀ f ∈ formals, IsIdentifier f.name) (coded : ∀ t ∈ code, IsCode t) :
      AreFormals formals
        (formals.map Formal.tree ++ (Option.toList result).map (.node .typeSpec) ++ code)

inductive HasFormals (formals : List Formal) : Tree Token → Prop where
  | declared (is : kind ∈ routines) (id : IsIdentifier n) (formal : AreFormals formals rest)
      (parts : phrases ts = n :: rest) : HasFormals formals (.node kind ts)
  | alone (is : kind ∈ [.createProcedureBody, .createFunctionBody])
      (wraps : label ∈ [.procedureName, .functionName]) (id : IsIdentifier n)
      (formal : AreFormals formals rest) (parts : phrases ts = .node label [n] :: rest) :
      HasFormals formals (.node kind ts)

/-- An argument: an expression, perhaps behind the name of a formal parameter and an arrow. -/
inductive IsArgument : Tree Token → Option String × Tree Token → Prop where
  | positional : IsArgument (.node .argument [value]) (none, value)
  | named (id : IsIdentifier n) (equals : IsLeaf .EQUALS_OP a)
      (greater : IsLeaf .GREATER_THAN_OP b) :
      IsArgument (.node .argument [n, a, b, value]) (some n.capitals, value)

inductive IsCall : Tree Token → List (Tree Token) → Prop where
  | statement (parts : phrases ts = [.node .routineName ns, .node .functionArgument us])
      (arguments : phrases us = args) : IsCall (.node .functionCall ts) args
  | expression (ids : ∀ t ∈ path, ∃ us, t = .node .idExpression [.node .regularId us])
      (parts : phrases ts = path ++ [.node .functionArgument us]) (arguments : phrases us = args) :
      IsCall (.node .generalElement [.node .generalElementPart ts]) args

/-- What a call passes: the values of its arguments, and before each of them its name, if it has
one. -/
def passed (names : List (Option String)) (values : List Draft) : List Draft :=
  (names.zip values).flatMap fun a => a.1.toList.map .ident ++ [a.2]

/-- The formal parameter that each of the drafts is meant for. A name is meant for none. -/
def meant : List (Option String) → List String → List (Option String)
  | [], _ => []
  | none :: names, formals => formals.head? :: meant names formals.tail
  | some name :: names, formals => none :: some name :: meant names formals

variable {formals : List Formal}

lemma formals_drafted (ids : ∀ f ∈ formals, IsIdentifier f.name)
    (comp : compileAll source (formals.map Formal.tree) s = .ok (ds, s')) :
    ds = formals.map Formal.draft := by
  induction formals generalizing s ds with
  | nil => simp_all
  | cons f formals ih =>
    obtain ⟨id, ids⟩ := forall_mem_cons.1 ids
    obtain ⟨own, later, s1, here, rest, rfl⟩ := compileAll_cons_inv comp
    obtain ⟨parts, s2, inner, whole⟩ := parts_of_compile here
    obtain ⟨first, others, s3, named, -, rfl⟩ := compileAll_cons_inv inner
    have name : compile source (.node .parameterName [f.name]) s = .ok ([.ident f.id], s) :=
      compile_of_parts (compileAll_single (compile_identifier id)) rfl
    cases name.symm.trans named
    cases whole
    rw [ih ids rest]
    rfl

lemma AreFormals.assembled {name : String} (formal : AreFormals formals ts)
    (names : ∀ s, compile source t s = .ok ([.ident name], s))
    (comp : compileAll source (t :: ts) s = .ok (ds, s')) :
    ∃ ms bs, IsAssembled (formals.map Formal.draft) ms bs ∧
      ds = .ident name :: (formals.map Formal.draft ++ (ms ++ bs)) := by
  obtain ⟨own, behind, s0, named, later, rfl⟩ := compileAll_cons_inv comp
  cases (names s).symm.trans named
  cases formal with
  | mk ids coded =>
    obtain ⟨front, bs, s1, first, code, rfl⟩ := compileAll_append_inv later
    obtain ⟨ps, ms, s2, parameters, result, rfl⟩ := compileAll_append_inv first
    cases formals_drafted ids parameters
    refine ⟨ms, bs, ⟨forall_mem_map.2 fun _ _ => rfl, result_drafted _ result, ?_⟩, by simp⟩
    intro d mem
    obtain ⟨t, inside, comes⟩ := always_comesAll _ s1 bs s' code d mem
    exact comes.standing (coded t inside)

lemma HasFormals.function (has : HasFormals formals t) (comp : compile source t s = .ok (ds, s')) :
    ∃ name body, ds = [.function name (formals.map Formal.draft) body []] := by
  cases has with
  | declared is id formal parts =>
    rw [compile_declared is, compileAll_phrases, parts] at comp
    obtain ⟨⟨pieces, inner⟩, within, rest⟩ := steps_of_bind comp
    obtain ⟨⟨name, f⟩, made, last⟩ := steps_of_bind rest
    obtain ⟨ms, bs, assembled, rfl⟩ := formal.assembled (fun _ => compile_identifier id) within
    rw [assembled.routine] at made
    split at made
    · cases made
    · cases made
      cases last
      exact ⟨_, _, rfl⟩
  | alone is wraps id formal parts =>
    rw [compile_alone is, compileAll_phrases, parts] at comp
    obtain ⟨⟨pieces, inner⟩, within, rest⟩ := steps_of_bind comp
    obtain ⟨⟨name, f⟩, made, last⟩ := steps_of_bind rest
    obtain ⟨ms, bs, assembled, rfl⟩ := formal.assembled (fun _ => compile_wrapped wraps id) within
    rw [assembled.standalone] at made
    cases made
    cases last
    exact ⟨_, _, rfl⟩

lemma parameters_written {names : List String}
    (written : (formals.map Formal.draft).mapM Target.toStmts.identifierOfParameter = some names) :
    names = formals.map Formal.id := by
  induction formals generalizing names with
  | nil =>
    cases written
    rfl
  | cons f formals ih =>
    rw [map_cons, mapM_cons] at written
    obtain ⟨own, is, rest⟩ := bind_eq_some_iff.1 written
    obtain ⟨others, later, made⟩ := bind_eq_some_iff.1 rest
    cases made
    have name : f.id = own := by
      simp only [Formal.draft, Draft.ident, Target.toStmts.identifierOfParameter,
        Target.identifier?, Target.label?, Option.bind_eq_bind, bind_some] at is
      split at is
      · exact Option.some.inj is
      · cases is
    rw [ih later, map_cons, name]

lemma HasFormals.parameters {f : Function} (has : HasFormals formals t)
    (comp : compile source t s = .ok ([d], s')) (decorated : d' = d ∨ d' = asStatic d)
    (written : Target.toStmts d' = some [.function f.name f.parameters f.isStatic f.body]) :
    f.parameters = formals.map Formal.id := by
  obtain ⟨name, body, made⟩ := has.function comp
  cases made
  obtain ⟨decorators, rfl⟩ : ∃ decorators,
      d' = .function name (formals.map Formal.draft) body decorators := by
    rcases decorated with rfl | rfl <;> exact ⟨_, rfl⟩
  obtain ⟨_, -, rest⟩ := bind_eq_some_iff.1 written
  obtain ⟨parameters, named, rest⟩ := bind_eq_some_iff.1 rest
  obtain ⟨stmts, -, made⟩ := bind_eq_some_iff.1 rest
  have same := Target.Stmt.function.inj (List.singleton_inj.1 (Option.some.inj made))
  rw [← same.2.1]
  exact parameters_written named

lemma IsArgument.compiled (argument : IsArgument t a)
    (single : Always (∃ d, · = [d]) (compile source a.2))
    (comp : compile source t s = .ok (ds, s')) :
    ∃ d, compile source a.2 s = .ok ([d], s') ∧ ds = a.1.toList.map .ident ++ [d] := by
  cases argument with
  | positional =>
    obtain ⟨parts, s1, inner, whole⟩ := parts_of_compile comp
    cases whole
    have value := compileAll_single_inv inner
    obtain ⟨d, rfl⟩ := single s _ s' value
    exact ⟨d, value, rfl⟩
  | named id equals greater =>
    obtain ⟨parts, s1, inner, whole⟩ := parts_of_compile comp
    cases whole
    obtain ⟨name, rest, s1, named, later, rfl⟩ := compileAll_cons_inv inner
    cases (compile_identifier id).symm.trans named
    rw [equals.skip, greater.skip] at later
    have value := compileAll_single_inv later
    obtain ⟨d, rfl⟩ := single s _ s' value
    exact ⟨d, value, rfl⟩

lemma arguments_passed (arguments : Forall₂ IsArgument args actuals)
    (single : ∀ a ∈ actuals, Always (∃ d, · = [d]) (compile source a.2))
    (comp : compileAll source args s = .ok (ds, s')) :
    ∃ values, compileAll source (actuals.map (·.2)) s = .ok (values, s') ∧
      values.length = actuals.length ∧ ds = passed (actuals.map (·.1)) values := by
  induction arguments generalizing s ds with
  | nil =>
    cases compileAll_nil.symm.trans comp
    exact ⟨[], compileAll_nil, rfl, rfl⟩
  | cons argument _ ih =>
    obtain ⟨one, others⟩ := forall_mem_cons.1 single
    obtain ⟨own, later, s1, here, rest, rfl⟩ := compileAll_cons_inv comp
    obtain ⟨d, value, rfl⟩ := argument.compiled one here
    obtain ⟨values, all, long, rfl⟩ := ih others rest
    exact ⟨d :: values, compileAll_cons value all, by simp [long], rfl⟩

lemma compile_functionArgument_inv
    (comp : compile source (.node .functionArgument ts) s = .ok (ds, s')) :
    compileAll source (phrases ts) s = .ok (ds, s') := by
  obtain ⟨parts, s1, inner, whole⟩ := parts_of_compile comp
  cases whole
  rw [← compileAll_phrases]
  exact inner

lemma IsCall.emitted (call : IsCall e args) (comp : compile source e s = .ok (ds, s')) :
    ∃ callee ps s1 s2, compileAll source args s1 = .ok (ps, s2) ∧ ds = [.call callee ps] := by
  cases call with
  | statement parts arguments =>
    obtain ⟨_, s1, inner, whole⟩ := parts_of_compile comp
    rw [compileAll_phrases, parts] at inner
    obtain ⟨name, ps, s2, routine, given, rfl⟩ := compileAll_cons_inv inner
    obtain ⟨_, _, _, named⟩ := parts_of_compile routine
    obtain ⟨callee, rfl, -⟩ := one_inv named
    have args := compile_functionArgument_inv (compileAll_single_inv given)
    rw [arguments] at args
    cases whole
    exact ⟨callee, ps, s2, _, args, rfl⟩
  | @expression path _ _ _ ids parts arguments =>
    obtain ⟨_, s1, inner, whole⟩ := parts_of_compile comp
    have are : ∀ t ∈ path, IsId t ∧ isRegular t = true := fun t mem => by
      obtain ⟨us, rfl⟩ := ids t mem
      exact ⟨.regular, rfl⟩
    obtain ⟨ps, callee, _, _, given, rfl, -, iff⟩ := part_kept parts (fun t mem => (are t mem).1)
      (by simp [Tree.kind?]) (compileAll_single_inv inner)
    cases iff.2 (.inl (all_eq_true.2 fun t mem => (are t mem).2))
    have args := compile_functionArgument_inv (compileAll_single_inv given)
    rw [arguments] at args
    obtain ⟨d, rfl, made⟩ := one_inv whole
    exact ⟨callee, ps, s, s1, args, by rw [element_single made]⟩

lemma length_meant (formals : List String) (long : values.length = names.length) :
    (meant names formals).length = (passed names values).length := by
  induction names generalizing values formals with
  | nil => rfl
  | cons name names ih =>
    obtain ⟨d, values, rfl⟩ := List.exists_cons_of_length_eq_add_one long
    have rest : ∀ formals, (meant names formals).length = (passed names values).length :=
      fun formals => ih formals (Nat.succ.inj long)
    simp only [passed] at rest ⊢
    cases name <;> simp [meant, rest]

lemma meant_iff (formals : List String) : meant names formals = formals.map some ↔
      (∀ name ∈ names, name = none) ∧ names.length = formals.length := by
  induction names generalizing formals with
  | nil => cases formals <;> simp [meant]
  | cons name names ih =>
    cases name with
    | none => cases formals <;> simp [meant, ih]
    | some name => cases formals <;> simp [meant]

end Compile

namespace Run

open Eval Target

variable {place : Place} {parameters : List String}

lemma evaluateAll_length (ran : evaluateAll place steps args m = .ok vs m₁) :
    vs.length = args.length := by
  induction args generalizing steps m vs with
  | nil =>
    cases steps <;> cases ran
    rfl
  | cons e args ih =>
    cases steps with
    | zero => cases ran
    | succ k =>
      obtain ⟨v, m₂, -, rest⟩ := ok_of_bind ran
      obtain ⟨others, m3, later, made⟩ := ok_of_bind rest
      cases made
      rw [length_cons, ih later, length_cons]

/-- Every call of a function with arguments that have values: the parameters are bound to the values
in their order, and nothing else is bound; with more or fewer arguments the call fails. -/
def BindsInOrder (f : Function) (parameters : List String) (func : Target.Expr)
    (args : List Target.Expr) : Prop :=
  ∀ place steps m b m₁ vs m₂, evaluate place (steps + 1) func m = .ok (.object b) m₁ →
    evaluateAll place (steps + 1) args m₁ = .ok vs m₂ →
    m₂.store.get? b = some (.function f) →
    (args.length ≠ parameters.length →
      evaluate place (steps + 2) (.call func args) m = .error (.failed .unsuited) m₂) ∧
    (args.length = parameters.length → ∃ frame : Frame,
      evaluate place (steps + 2) (.call func args) m =
        (do
          let inner : Place := { frame := some m₂.store.size, used := usedInStmts f.body }
          match ← deeper (executeAll inner steps f.body) with
          | .returned result => return result
          | _ => return .none : Eval Value) (m₂.push (.frame frame)) ∧
      (∀ (i : Nat) x, parameters[i]? = some x → frame.values.get? x = vs[i]?) ∧
      ∀ x, x ∉ parameters → frame.values.get? x = none)

lemma bindsInOrder (func : Target.Expr) (args : List Target.Expr)
    (ne : f.parameters.Nodup) : BindsInOrder f f.parameters func args := by
  intro place steps m b m₁ vs m₂ callee given found
  have whole :
      evaluate place (steps + 2) (.call func args) m = call (steps + 1) (.object b) vs m₂ := by
    exact (bind_ok callee).trans (bind_ok given)
  have object : objectOf? (.object b) m₂ = .ok (some (.function f)) m₂ := by
    rw [← found]
    rfl
  rw [whole, call, bind_ok object]
  dsimp only
  rw [← evaluateAll_length given]
  let frame : Frame := { own := f.parameters ++ boundInAll f.body
                         values := Bindings.setAll [] (f.parameters.zip vs)
                         outer := f.outer }
  refine ⟨fun unequal => ?_, fun same => ⟨frame, ?_, ?_, ?_⟩⟩
  · have refused : enter f vs m₂ = .error (.failed .unsuited) m₂ := by
      unfold enter
      rw [if_pos (by simpa using unequal)]
      rfl
    rw [bind_error refused]
  · rw [bind_ok (enter_eq same m₂)]
    rfl
  · intro i x is
    obtain ⟨g, rfl⟩ := exists_eq_map ne same
    rw [Bindings.get?_setAll_map, if_pos (List.mem_of_getElem? is), List.getElem?_map, is]
    rfl
  · intro x other
    rcases value : frame.values.get? x with _ | v
    · rfl
    · rcases Bindings.mem_of_get?_setAll value with none | inside
      · cases none
      · exact absurd (of_mem_zip inside).1 other

end Run

namespace Compile

open Target Run

variable {source : String} {s s' r r' : Scope} {t e : Tree Token} {args : List (Tree Token)}
  {ds : List Draft} {d d' : Draft} {f : Function}

lemma length_toExprs (written : toExprs ds = some es) : es.length = ds.length := by
  induction ds generalizing es with
  | nil =>
    cases written
    rfl
  | cons d ds ih =>
    obtain ⟨_, -, rest⟩ := bind_eq_some_iff.1 written
    obtain ⟨others, later, made⟩ := bind_eq_some_iff.1 rest
    grind

/-- A call of a routine binds the parameters in the order of what it passes. All of it is meant for
the parameter that it is bound to if and only if no argument is named and none is left out. -/
theorem formals_bound_iff (has : HasFormals formals t) (distinct : (formals.map Formal.id).Nodup)
    (translated : compile source t s = .ok ([d], s')) (decorated : d' = d ∨ d' = asStatic d)
    (written : toStmts d' = some [.function f.name f.parameters f.isStatic f.body])
    (call : IsCall e args) (arguments : List.Forall₂ IsArgument args actuals)
    (single : ∀ a ∈ actuals, Always (∃ d, · = [d]) (compile source a.2))
    (emitted : compile source e r = .ok (ds, r')) :
    let names := actuals.map (·.1)
    let ids := formals.map Formal.id
    ∃ callee values r₁ r₂, compileAll source (actuals.map (·.2)) r₁ = .ok (values, r₂) ∧
      values.length = actuals.length ∧ ds = [.call callee (passed names values)] ∧
      (∀ func exprs, toExpr (.call callee (passed names values)) = some (.call func exprs) →
        exprs.length = (meant names ids).length ∧ BindsInOrder f ids func exprs) ∧
      (meant names ids = ids.map some ↔
        (∀ name ∈ names, name = none) ∧ actuals.length = formals.length) := by
  intro names ids
  have parameters : f.parameters = ids := has.parameters translated decorated written
  obtain ⟨callee, ps, r₁, r₂, given, rfl⟩ := call.emitted emitted
  obtain ⟨values, compiled, long, rfl⟩ := arguments_passed arguments single given
  refine ⟨callee, values, r₁, r₂, compiled, long, rfl, fun func exprs written => ⟨?_, ?_⟩, ?_⟩
  · rw [toExpr] at written
    obtain ⟨_, -, rest⟩ := bind_eq_some_iff.1 written
    obtain ⟨others, later, made⟩ := bind_eq_some_iff.1 rest
    cases made
    rw [length_toExprs later, length_meant ids (by simpa [names] using long)]
  · rw [← parameters]
    exact bindsInOrder func exprs (parameters ▸ distinct)
  · rw [meant_iff, length_map, length_map]

open BlockScript.Core

def defaulted : List Formal :=
  [⟨identifierTree "a", []⟩,
    ⟨identifierTree "b", [.node .defaultValuePart [leafOf .ASSIGN_OP ":=", numeralTree "2"]]⟩]

def defaultedTree : Tree Token :=
  .node .procedureBody (leafOf .PROCEDURE "procedure" :: identifierTree "p" ::
    (defaulted.map Formal.tree ++ [leafOf .IS "is", bodyTree [nullTree], semicolonTree]))

lemma defaulted_hasFormals : HasFormals defaulted defaultedTree := by
  have inner : ∀ t ∈ [leafOf .BEGIN "begin", .node .seqOfStatements [nullTree, semicolonTree],
      leafOf .END "end"], IsCode t := by
    have sequence : IsCode (.node .seqOfStatements [nullTree, semicolonTree]) :=
      .frame (by decide) (forall_mem_cons.2 ⟨.own (by decide), forall_single .word⟩)
    simpa using ⟨.word, sequence, .word⟩
  have formal : AreFormals defaulted
      (defaulted.map Formal.tree ++ (Option.toList none).map (.node .typeSpec) ++
        [bodyTree [nullTree]]) :=
    .mk (by simp [defaulted, isIdentifier_tree]) (forall_single (.frame (by decide) inner))
  exact .declared (by decide) (isIdentifier_tree _) formal rfl

def passingTree (arguments : List (Tree Token)) : Tree Token :=
  .node .functionCall [.node .routineName [identifierTree "p"],
    .node .functionArgument (leafOf .LEFT_PAREN "(" :: (arguments ++ [leafOf .RIGHT_PAREN ")"]))]

def valueTree (digits : String) : Tree Token :=
  climb [.expression, .logicalExpression, .multisetExpression] (numeralTree digits)

lemma single_logical (ts) :
    Always (∃ d, · = [d]) (compile source (.node .expression [.node .logicalExpression ts])) := by
  intro s ds s' comp
  obtain ⟨parts, s1, inner, whole⟩ := parts_of_compile comp
  cases whole
  obtain ⟨_, _, _, whole⟩ := parts_of_compile (compileAll_single_inv inner)
  obtain ⟨d, -, rfl⟩ := single_inv whole
  exact ⟨d, rfl⟩

theorem positional_bound :
    let s := ({} : Scope).declare "P"
    let call := passingTree [.node .argument [valueTree "1"], .node .argument [valueTree "2"]]
    ∃ callee values, compile "" call s = .ok ([.call callee (passed [none, none] values)], s) ∧
      values.length = 2 ∧ meant [none, none] ["A", "B"] = [some "A", some "B"] := by
  intro s call
  let f : Function := ⟨"P", ["A", "B"], false, [.pass], none⟩
  have ids : defaulted.map Formal.id = ["A", "B"] := by
    with_unfolding_all rfl
  have emitted : compile "" call s =
      .ok ([.call (.ident "P") [(Arith.number 1).draft, (Arith.number 2).draft]], s) := by
    with_unfolding_all rfl
  have translated : compile "" defaultedTree {} =
      .ok ([.function "P" (defaulted.map Formal.draft) [.expr .pass] []], s) := by
    with_unfolding_all rfl
  have written : Target.toStmts (.function "P" (defaulted.map Formal.draft) [.expr .pass] []) =
      some [.function f.name f.parameters f.isStatic f.body] := by
    with_unfolding_all rfl
  obtain ⟨callee, values, r₁, r₂, -, long, same, -, bound⟩ :=
    formals_bound_iff defaulted_hasFormals (by rw [ids]; decide) translated (.inl rfl) written
      (.statement rfl rfl) (.cons .positional (.cons .positional .nil))
      (by simpa using ⟨single_logical _, single_logical _⟩) emitted
  rw [ids] at bound
  exact ⟨callee, values, by rw [emitted, same]; rfl, long, bound.2 ⟨by simp, rfl⟩⟩

/-- The name before an arrow is passed as well, so that the first parameter gets the value of that
name and the second the argument that is meant for the first. -/
theorem named_argument_shifted :
    let s := ({} : Scope).declare "P"
    let one := valueTree "1"
    let argument := .node .argument [identifierTree "a", leafOf .EQUALS_OP "=",
      leafOf .GREATER_THAN_OP ">", one]
    HasFormals defaulted defaultedTree ∧ IsCall (passingTree [argument]) [argument] ∧
      IsArgument argument (some "A", one) ∧
      compile "" (passingTree [argument]) s =
        .ok ([.call (.ident "P") [.ident "A", (Arith.number 1).draft]], s) ∧
      meant [some "A"] (defaulted.map Formal.id) = [none, some "A"] := by
  intro s one argument
  have name : (identifierTree "a").capitals = "A" := by
    with_unfolding_all rfl
  refine ⟨defaulted_hasFormals, .statement rfl rfl, ?_, ?_, rfl⟩
  · rw [← name]
    exact .named (isIdentifier_tree _) ⟨_, rfl⟩ ⟨_, rfl⟩
  · with_unfolding_all rfl

end Compile
end BlockScript
