import BlockScript.Proofs.Owners
import BlockScript.Proofs.ProgramImports
import BlockScript.Proofs.SharedCells
import BlockScript.Proofs.StandaloneRoutines

/-!
Names that a routine takes from around it. A name that a routine neither declares nor has as a
parameter is read from the innermost frame around it that has the name, unless the routine also
assigns to it: then the name is the routine's own and never has a value.
-/

namespace BlockScript

namespace Target

variable {s : Stmt} {body : List Stmt}

lemma declared_of_mem (mem : s ∈ body) (declares : x ∈ s.declares) : x ∈ declaredInAll body :=
  mem_collected (fun _ _ => rfl) mem declares

lemma declared_of_block (mem : block ∈ s.blocks) (declares : x ∈ declaredInAll block) :
    x ∈ s.declares := by
  unfold Stmt.blocks at mem
  split at mem
  · rw [Stmt.declares, mem_append]
    obtain rfl | mem := mem_cons.1 mem
    · exact .inl declares
    · grind
  · cases mem_singleton.1 mem
    exact declares
  · cases mem_singleton.1 mem
    exact mem_cons_of_mem _ declares
  · rw [Stmt.declares, mem_append]
    obtain rfl | mem := mem_cons.1 mem
    · exact .inl declares
    · obtain ⟨handler, isHandler, rfl⟩ := mem_map.1 mem
      exact .inr (mem_collected (f := declaredInAll ∘ Handler.body) (fun ⟨_, _⟩ _ => rfl) isHandler
        declares)
  · cases mem

end Target

namespace Run

open Target Eval Machine

def Leaves (q : Function) (name : String) : Prop :=
  name ∉ q.parameters ∧ name ∉ declaredInAll q.body

/-- There is a frame of a call of a routine. -/
structure Serves (q : Function) (a b : Nat) (m : Machine) : Prop where
  function : m.store.get? b = some (.function q)
  frame : ∃ f, m.store.get? a = some (.frame f) ∧ f.own = q.parameters ++ boundInAll q.body ∧
    f.outer = q.outer ∧
    ∀ name ∈ boundInAll q.body, Leaves q name → f.values.get? name = none

variable {m : Machine}

section

variable {body : List Stmt}

lemma Serves.congr (serves : Serves q a b m) (function : m'.store.get? b = m.store.get? b)
    (frame : m'.store.get? a = m.store.get? a) : Serves q a b m' :=
  ⟨function.trans serves.function, by rw [frame]; exact serves.frame⟩

lemma serves_entered (function : m.store.get? b = some (.function q)) :
    Serves q m.store.size b (m.entered q given) where
  function := get?_pushed function
  frame := by
    refine ⟨_, get?_push_size m _, rfl, rfl, fun name _ leaves => ?_⟩
    cases known : (Bindings.setAll [] (q.parameters.zip given)).get? name with
    | none => rfl
    | some v =>
      obtain absurdity | mem := Bindings.mem_of_get?_setAll known
      · cases absurdity
      · exact absurd (of_mem_zip mem).1 leaves.1

lemma Serves.follow (serves : Serves q a b m) (follows : m.Follows m') : Serves q a b m' := by
  obtain ⟨function, f, frame, rest⟩ := serves
  exact ⟨(follows.get?_program (o := .function q) trivial).2 function, f,
    (follows.get?_program (o := .frame f) trivial).2 frame, rest⟩

lemma Serves.push (serves : Serves q a b m) (o) : Serves q a b (m.push o) := by
  obtain ⟨f, frame, -⟩ := serves.frame
  exact serves.congr (get?_push_of_lt m o (get?_lt serves.function))
    (get?_push_of_lt m o (get?_lt frame))

lemma Serves.package (serves : Serves q a b m) (found : m.store.get? c = some (.package p)) :
    Serves q a b (m.put c (.package p')) := by
  obtain ⟨function, f, frame, -⟩ := id serves
  exact serves.congr (get?_put_of_ne (by grind) m _) (get?_put_of_ne (by grind) m _)

lemma Serves.bind (serves : Serves q a b m) (found : m.store.get? c = some (.frame f))
    (free : ¬ (c = a ∧ name ∈ boundInAll q.body ∧ Leaves q name)) :
    Serves q a b (m.put c (.frame { f with values := f.values.set name v })) := by
  have function : c ≠ b := by
    rintro rfl
    cases found.symm.trans serves.function
  by_cases here : c = a
  · subst here
    obtain ⟨f', frame, own, outer, unset⟩ := serves.frame
    cases found.symm.trans frame
    refine ⟨(get?_put_of_ne function m _).trans serves.function, _,
      get?_put_self (get?_lt found) _, own, outer, fun other bound leaves => ?_⟩
    have differ : other ≠ name := by grind
    exact (Bindings.get?_set_of_ne _ v differ).trans (unset other bound leaves)
  · exact serves.congr (get?_put_of_ne function m _) (get?_put_of_ne here m _)

lemma bears_serves (q : Function) (a b : Nat) :
    Bears Machine.Follows (fun m m' => Serves q a b m ∧ Serves q a b m')
      fun c name => ¬ (c = a ∧ name ∈ boundInAll q.body ∧ Leaves q name) where
  here both := ⟨both.2, both.2⟩
  trans first second := ⟨first.1, second.2⟩
  follow start follows := ⟨start.1, start.1.follow follows⟩
  note start store _ := ⟨start.1, start.1.congr (by rw [store]) (by rw [store])⟩
  push start _ := ⟨start.1, start.1.push _⟩
  package start found := ⟨start.1, start.1.package found⟩
  bind start found free := ⟨start.1, start.1.bind found free⟩
  fresh start large name taken := by
    obtain ⟨f, frame, -⟩ := start.1.frame
    have small := get?_lt frame
    omega
  unset start taken := by
    obtain ⟨rfl, bound, leaves⟩ := Classical.not_not.1 taken
    obtain ⟨f, frame, own, -, unset⟩ := start.1.frame
    exact ⟨f, frame, own ▸ mem_append_right _ bound, unset _ bound leaves⟩

def IsPartOf (q : Function) (body : List Stmt) : Prop :=
  boundInAll body ⊆ boundInAll q.body ∧ declaredInAll body ⊆ declaredInAll q.body

lemma IsPartOf.fits {names : List String} (part : IsPartOf q body)
    (among : ∀ name ∈ names, name ∈ declaredInAll body) :
    Fits (fun c name => ¬ (c = a ∧ name ∈ boundInAll q.body ∧ Leaves q name)) place names :=
  fun _ _ _ name mem taken => taken.2.2.2 (part.2 (among name mem))

lemma Reached.serves (reached : Reached program calls place body m)
    (outside : place.package = none) (here : place.frame = some a) :
    ∃ q b, Serves q a b m ∧ IsPartOf q body := by
  induction reached with
  | start => cases here
  | inside _ mem isBlock ih =>
    obtain ⟨q, b, serves, bound, declared⟩ := ih outside here
    exact ⟨q, b, serves, fun x inBlock => bound (bound_of_mem mem (bound_of_block isBlock inBlock)),
      fun x inBlock => declared (declared_of_mem mem (declared_of_block isBlock inBlock))⟩
  | @executed _ place _ m s steps m' _ mem leads ih =>
    obtain ⟨q, b, serves, part⟩ := ih outside here
    have ends := ((bears_serves q a b).safe steps).execute place s
      (part.fits fun _ => declared_of_mem mem) m ⟨serves, serves⟩
    exact ⟨q, b, (Ends.of_leads ends leads).2, part⟩
  | @evaluated _ place _ m steps e m' _ leads ih =>
    obtain ⟨q, b, serves, part⟩ := ih outside here
    have ends := ((bears_serves q a b).safe steps).evaluate place e m ⟨serves, serves⟩
    exact ⟨q, b, (Ends.of_leads ends leads).2, part⟩
  | @called _ _ _ m steps v args m' _ leads ih =>
    obtain ⟨q, b, serves, part⟩ := ih outside here
    have ends := ((bears_serves q a b).safe steps).call v args m ⟨serves, serves⟩
    exact ⟨q, b, (Ends.of_leads ends leads).2, part⟩
  | followed _ follows ih =>
    obtain ⟨q, b, serves, part⟩ := ih outside here
    exact ⟨q, b, serves.follow follows, part⟩
  | @counted _ place body m target range inner n m' _ mem leads ih =>
    obtain ⟨q, b, serves, part⟩ := ih outside here
    have bears := bears_serves q a b
    have counted : ∀ name ∈ [target], name ∈ declaredInAll body := fun name member =>
      declared_of_mem mem (mem_singleton.1 member ▸ mem_cons_self)
    have binds (v) : Within _ (bindName place target v) :=
      bears.within_bindName (part.fits counted) v
    have ends := bears.next (bears.lift (keeps_wrap (.int n))) binds m ⟨serves, serves⟩
    exact ⟨q, b, (Ends.of_leads ends leads).2, part⟩
  | entered _ found =>
    cases here
    exact ⟨_, _, serves_entered found, fun _ bound => bound, fun _ declared => declared⟩
  | opened => cases outside

end

lemma execute_update_unset (unset : lookUp place name m = .error (.failed .unsetLocal) m)
    (steps) (e : Expr) :
    execute place (steps + 1) (.update (.name name) e) m = .error (.failed .unsetLocal) m := by
  exact bind_error unset

/-- Wherever a program gets to inside a routine: a name from around the routine that the routine
binds somewhere can neither be read nor assigned to; any other is read from its owner. -/
lemma Reached.names {body : List Stmt} (reached : Reached program calls place body m)
    (outside : place.package = none) (here : place.frame = some a) :
    ∃ q b, Serves q a b m ∧ IsPartOf q body ∧ ∀ name, Leaves q name →
      (∀ e, .update (.name name) e ∈ body → ∀ steps,
        execute place (steps + 1) (.update (.name name) e) m = .error (.failed .unsetLocal) m) ∧
      (name ∈ boundInAll q.body → lookUp place name m = .error (.failed .unsetLocal) m) ∧
      (name ∉ boundInAll q.body → ∀ passed owner v, Owner m name passed q.outer owner →
        m.slot? (Place.slot { frame := owner } name) = some v → lookUp place name m = .ok v m) := by
  obtain ⟨q, b, serves, part⟩ := reached.serves outside here
  obtain ⟨f, frame, own, outer, unset⟩ := serves.frame
  refine ⟨q, b, serves, part, fun name leaves => ?_⟩
  have unread (isBound) : lookUp place name m = .error (.failed .unsetLocal) m :=
    lookUp_unset outside here frame (own ▸ mem_append_right _ isBound) (unset name isBound leaves)
  refine ⟨fun e mem steps => ?_, unread, fun unbound passed owner v owns known => ?_⟩
  · have isBound : name ∈ boundInAll body := bound_of_mem mem mem_cons_self
    exact execute_update_unset (unread (part.1 isBound)) steps e
  · have other : name ∉ f.own := by
      rw [own, mem_append]
      exact fun either => either.elim leaves.1 unbound
    have owns' : Owner m name (a :: passed) place.frame owner := by
      rw [here]
      exact .around frame other (outer ▸ owns)
    exact owns'.lookUp_eq outside known

end Run

def Scope.Foreign (s : Scope) (name : String) : Prop :=
  s.package ≠ some name ∧ name ∉ s.members ∧ name ∉ Scope.standard

namespace Compile

variable {s : Scope}

section

variable (unlocal : name ∉ s.declared) (rooted : Scope.rootOf (s.resolve name) = .ok root)
include unlocal rooted

lemma resolve_rooted :
    root = name ∧ s.resolve name = .ident name ∧ (s.package = some name ∨ s.Foreign name) ∨
      root ≠ name ∧ s.resolve name = .member (.ident root) name ∧
        ¬ (s.package = some name ∨ s.Foreign name) := by
  unfold Scope.resolve at rooted ⊢
  by_cases own : s.package = some name
  · rw [if_pos (by simp [own])] at rooted ⊢
    cases rooted
    exact .inl ⟨rfl, rfl, .inl own⟩
  rw [if_neg (by simp [own, unlocal])] at rooted ⊢
  by_cases known : name ∈ s.members
  · rw [if_pos (contains_iff_mem.2 known)] at rooted ⊢
    cases inPackage : s.package with
    | none =>
      rw [inPackage] at rooted
      cases rooted
    | some package =>
      rw [inPackage] at rooted own
      cases rooted
      refine .inr ⟨fun same => own (same ▸ rfl), rfl, ?_⟩
      rintro (same | foreign)
      · exact own same
      · exact foreign.2.1 known
  rw [if_neg fun mem => known (contains_iff_mem.1 mem)] at rooted ⊢
  by_cases usual : name ∈ Scope.standard
  · rw [if_pos (contains_iff_mem.2 usual)] at rooted ⊢
    cases rooted
    refine .inr ⟨?_, rfl, ?_⟩
    · rintro rfl
      exact absurd usual (by decide)
    · rintro (same | foreign)
      · exact own same
      · exact foreign.2.2 usual
  · rw [if_neg fun mem => usual (contains_iff_mem.1 mem)] at rooted ⊢
    cases rooted
    exact .inl ⟨rfl, rfl, .inr ⟨own, known, usual⟩⟩

lemma begins_name_iff (begins : Begins (s.resolve name) d) :
    Begins (.ident name) d ↔ s.package = some name ∨ s.Foreign name := by
  rcases resolve_rooted unlocal rooted with ⟨rfl, same, bare⟩ | ⟨differ, same, qualified⟩
  · exact iff_of_true (same ▸ begins) bare
  · refine iff_of_false (fun also => ?_) qualified
    rw [same] at begins
    rcases also.linear begins with first | second
    · cases first with
      | member value =>
        cases value
        exact differ rfl
    · cases second

lemma imported_iff (grows : s.Grows s') (unlocal' : name ∉ s'.declared) :
    name ∈ (if s'.package == some root || s'.declared.contains root then s'
      else s'.require root).imports ↔ name ∈ s'.imports ∨ s.Foreign name := by
  rcases resolve_rooted unlocal rooted with ⟨rfl, -, bare⟩ | ⟨differ, -, qualified⟩
  · rcases bare with own | foreign
    · rw [if_pos (by simp [grows.package, own])]
      exact (or_iff_left fun foreign => foreign.1 own).symm
    · have other : s'.package ≠ some root := by
        rw [grows.package]
        exact foreign.1
      rw [if_neg (by simp [other, unlocal'])]
      exact iff_of_true (Scope.mem_addNew.2 (.inr rfl)) (.inr foreign)
  · rw [or_iff_left fun foreign => qualified (.inr foreign)]
    split
    · exact .rfl
    · exact Scope.mem_addNew.trans (or_iff_left (Ne.symm differ))

end

open Target Run

lemma alone_imports (is : kind ∈ [.createProcedureBody, .createFunctionBody])
    (comp : compile src (.node kind ts) s = .ok (ds, s')) : s'.imports = s.imports := by
  rw [compile_alone is] at comp
  obtain ⟨⟨parts, s1⟩, -, rest⟩ := steps_of_bind comp
  obtain ⟨⟨name, f⟩, -, returned⟩ := steps_of_bind rest
  cases returned
  rfl

/-- A reference in a routine to a name that the routine does not declare. The name is used as it is
exactly if no package has it or it is the package itself. If no package has it, it is imported too;
and then, unless the library has a package of that name, a program with the routine does not start.
Only around routines that stand by themselves imports are forgotten. In a program that does start, a
name from around a routine can be read there unless the routine assigns to it, and it can never be
assigned to. -/
theorem nested_reference_imported {source name : String} {path : List String} {kind : Nonterminal}
    {children part rest : List (Tree Token)} {s s₁ s₂ s₃ : Scope} {ds es : List Draft}
    (is : kind = .procedureBody ∨ kind = .functionBody)
    (free : lacks packages (.node kind children) = true)
    (compiled : compile source (.node kind children) s = .ok (ds, s₁))
    (visits : Visits source s (.node kind children) s₂
      (.node .generalElement (.node .generalElementPart part :: rest)))
    (names : namesOf part .idExpression = name :: path)
    (parts : compileAll source (.node .generalElementPart part :: rest) s₂ = .ok (es, s₃))
    (unlocal : name ∉ s₃.declared) :
    (∃ d s₄, compile source (.node .generalElement (.node .generalElementPart part :: rest)) s₂ =
        .ok ([d], s₄) ∧
      (Begins (.ident name) d ↔ s.package = some name ∨ s.Foreign name) ∧
      (name ∈ s₄.imports ↔ name ∈ s₃.imports ∨ s.Foreign name)) ∧
    (∀ ts draft s', compile source (.node .sqlScript ts) {} = .ok ([draft], s') →
      Meets source {} (.node .sqlScript ts) s (.node kind children) →
      s.Foreign name → Library.exports? name = none → ∀ program, ofDraft draft = .ok program →
      ∀ steps m, ∃ stop m', executeAll {} steps program.body m = .error stop m' ∧
        m'.store = m.store ∧ m'.database = m.database ∧ m'.printed = m.printed ∧
        (program.body.length < steps → ∃ package, stop = .failed (.unknownPackage package))) ∧
    (∀ alone ts t fs t', alone ∈ [.createProcedureBody, .createFunctionBody] →
      compile source (.node alone ts) t = .ok (fs, t') → t'.imports = t.imports) ∧
    ∀ {program body : List Stmt} {calls : Calls} {place : Run.Place} {m : Machine} {a : Nat},
      Reached program calls place body m → place.package = none → place.frame = some a →
      ∃ q b, Serves q a b m ∧ IsPartOf q body ∧ ∀ name, Leaves q name →
        (∀ e, .update (.name name) e ∈ body → ∀ steps,
          execute place (steps + 1) (.update (.name name) e) m =
            .error (.failed .unsetLocal) m) ∧
        (name ∈ boundInAll q.body → lookUp place name m = .error (.failed .unsetLocal) m) ∧
        (name ∉ boundInAll q.body → ∀ passed owner v, Owner m name passed q.outer owner →
          m.slot? (Place.slot { frame := owner } name) = some v →
            lookUp place name m = .ok v m) := by
  obtain ⟨_, s₄, reference, gathered⟩ := visits.compiled compiled
  have refers : Refers (.node .generalElement (.node .generalElementPart part :: rest))
      (.node .generalElementPart part :: rest) name := .reference names
  obtain ⟨package, members⟩ := visits.routine_scope is free refers
  obtain ⟨d, s₅, root, rfl, begins, grows, grows', rooted, result⟩ :=
    reference_inv names (refers.lacking (visits.lacking free)) parts reference
  have unlocal₅ : name ∉ s₅.declared := fun member => unlocal (grows'.declared member)
  have foreign : s₅.Foreign name ↔ s.Foreign name := by
    rw [Scope.Foreign, Scope.Foreign, Scope.members, grows.package, grows.ownMembers, package,
      members, getD_some]
  have bare := begins_name_iff unlocal₅ rooted begins
  rw [foreign, grows.package, package] at bare
  have imported := imported_iff unlocal₅ rooted grows' unlocal
  rw [foreign, ← result] at imported
  refine ⟨⟨d, s₄, reference, bare, imported⟩, ?_, fun _ _ _ _ _ alone => alone_imports alone,
    fun reached outside here => reached.names outside here⟩
  intro ts draft s' script meets foreign missing program written steps m
  obtain ⟨_, _, routine, gathered'⟩ := meets.compiled script
  cases compiled.symm.trans routine
  have known : name ∈ s'.imports := gathered' (gathered (imported.2 (.inr foreign)))
  exact stops_unknown script written known missing steps m

open Core (leafOf nameTree referenceTree numeralTree)

def enclosingTree (id : String) (routine : Tree Token) : Tree Token :=
  .node .anonymousBlock
    [leafOf .DECLARE "declare",
      .node .seqOfDeclareSpecs
        [.node .declareSpec [declarationTree id], .node .declareSpec [routine]],
      leafOf .BEGIN "begin",
      .node .seqOfStatements [.node .statement [callTree "q"], leafOf .SEMICOLON ";"],
      leafOf .END "end", leafOf .SEMICOLON ";"]

def enclosingScope (name : String) : Scope := { declared := [name] }

lemma meets_enclosed {id : String} {routine : Tree Token}
    (there : Meets "" (enclosingScope (identifierTree id).capitals) routine s u) :
    Meets "" {} (scriptTree (enclosingTree id routine)) s u := by
  refine .script (show _ = [] ++ _ :: _ from rfl) compileAll_nil (.visits ?_ there)
  refine .first (.inl (by decide)) ?_
  refine .inside (.inl (by decide)) (show _ = [_] ++ _ :: _ from rfl) rfl ?_
  refine .inside (.inl (by decide)) (show _ = [_] ++ _ :: _ from rfl) rfl ?_
  exact .first (.inl (by decide)) .here

lemma visits_assigned (s) :
    Visits "" s (routineTree "q" (assignmentTree "x")) s.routine (referenceTree "x") :=
  visits_routine (.first (.inl (by decide)) .here)

lemma capitals_x : (identifierTree "x").capitals = "X" := by with_unfolding_all rfl

lemma namesOf_x : namesOf [.node .idExpression [nameTree "x"]] .idExpression = ["X"] := by decide +kernel

lemma compile_x : compileAll "" [.node .generalElementPart [.node .idExpression [nameTree "x"]]]
    {} = .ok ([.call (.ident "X") []], {}) := by with_unfolding_all rfl

def assigningDraft : Draft :=
  .function "Q" [] [.expr (.update (.ident "X") (.cell (.constant (.int 1))))] []

lemma compile_assigning : compile "" (routineTree "q" (assignmentTree "x")) (enclosingScope "X") =
      .ok ([assigningDraft], { declared := ["X", "Q"], imports := ["X"] }) := by
  with_unfolding_all rfl

def enclosingDraft : Draft :=
  .program [.importAll "X", .importAll "PLGLOBALS", .importAll "PLHELPER", .importAll "PLCURSOR",
    .expr (.assign (.ident "X") (.call (.ident "m") [])), .expr assigningDraft,
    .expr (.call (.ident "Q") [])]

set_option maxRecDepth 2000 in
lemma compile_enclosing :
    compile "" (scriptTree (enclosingTree "x" (routineTree "q" (assignmentTree "x")))) {} =
      .ok ([enclosingDraft], { declared := ["X", "Q"], imports := "X" :: alwaysImported }) := by
  with_unfolding_all rfl

def enclosingProgram : Program :=
  ⟨[.importAll "X", .importAll "PLGLOBALS", .importAll "PLHELPER", .importAll "PLCURSOR",
    .assign "X" (.call (.name "m") []),
    .function "Q" [] false [.update (.name "X") (.call (.name "m") [.constant (.int 1)])],
    .expr (.call (.name "Q") [])]⟩

lemma ofDraft_enclosing : ofDraft enclosingDraft = .ok enclosingProgram := by rfl

def reader : Function :=
  { name := "Q", parameters := [], isStatic := false, body := [.expr (.name "X")], outer := none }

def readingProgram : List Stmt :=
  [.importAll "PLHELPER", .assign "X" (newCell 1), .function "Q" [] false reader.body]

def readingMachine : Machine := (outcome 9 readingProgram).entered reader []

def readingPlace : Run.Place :=
  { frame := some (outcome 9 readingProgram).store.size, used := usedInStmts reader.body }

lemma reached_reading : Reached readingProgram [((outcome 9 readingProgram).store.size, [])]
    readingPlace reader.body readingMachine := by
  have found : (outcome 9 readingProgram).store.get? 2 = some (.function reader) := by rfl
  exact (reached_outcome 9 readingProgram).entered found

lemma eq_reader {b : Nat} (found : readingMachine.store.get? b = some (.function q)) :
    q = reader := by
  have size : readingMachine.store.size = 4 := by rfl
  have cells : ∀ a : Nat, a < 2 → ∃ v, readingMachine.store.get? a = some (.cell v) := by
    intro a small
    obtain rfl | rfl : a = 0 ∨ a = 1 := by omega
    · exact ⟨.int 0, by rfl⟩
    · exact ⟨.int 1, by rfl⟩
  have small : b < 4 := size ▸ Machine.get?_lt found
  obtain early | rfl | rfl : b < 2 ∨ b = 2 ∨ b = 3 := by omega
  · grind
  · have function : readingMachine.store.get? 2 = some (.function reader) := by rfl
    cases function.symm.trans found
    rfl
  · have frame : readingMachine.store.get? 3 =
        some (.frame { own := [], values := [], outer := none }) := by rfl
    cases frame.symm.trans found

/-- The block that assigns does not start; a routine that only reads can. -/
theorem enclosing_reference_stops :
    (∃ d s₄, compile "" (referenceTree "x") (enclosingScope "X").routine = .ok ([d], s₄) ∧
      Begins (.ident "X") d ∧ "X" ∈ s₄.imports) ∧
    (∀ steps m, ∃ stop m', executeAll {} steps enclosingProgram.body m = .error stop m' ∧
      m'.store = m.store ∧ m'.database = m.database ∧ m'.printed = m.printed ∧
      (enclosingProgram.body.length < steps →
        ∃ package, stop = .failed (.unknownPackage package))) ∧
    lookUp readingPlace "X" readingMachine = .ok (.object 1) readingMachine := by
  have foreign : (enclosingScope "X").Foreign "X" := ⟨nofun, not_mem_nil, by decide⟩
  obtain ⟨⟨d, s₄, compiled, bare, imported⟩, stops, -, names⟩ :=
    nested_reference_imported (.inl rfl) (by decide) compile_assigning (visits_assigned _)
      namesOf_x compile_x not_mem_nil
  refine ⟨⟨d, s₄, compiled, bare.2 (.inr foreign), imported.2 (.inr foreign)⟩,
    stops _ _ _ compile_enclosing (meets_enclosed (capitals_x ▸ .here)) foreign rfl _
      ofDraft_enclosing, ?_⟩
  obtain ⟨q, b, serves, -, reads⟩ := names reached_reading rfl rfl
  cases eq_reader serves.function
  exact (reads "X" ⟨by decide, by decide⟩).2.2 (by decide) [] none (.object 1) .program (by rfl)

/-- A variable of a block, assigned to by a procedure of the block: the variable is imported, and
without the import the assignment fails and leaves the variable null. -/
theorem enclosing_variable_unassigned :
    Meets "" {} (scriptTree (enclosingTree "x" (routineTree "q" (assignmentTree "x"))))
      (enclosingScope "X") (routineTree "q" (assignmentTree "x")) ∧
    Visits "" (enclosingScope "X") (routineTree "q" (assignmentTree "x"))
      (enclosingScope "X").routine (referenceTree "x") ∧
    "X" ∈ (enclosingScope "X").declared ∧ "X" ∉ (enclosingScope "X").routine.declared ∧
    (∃ s', compile "" (scriptTree (enclosingTree "x" (routineTree "q" (assignmentTree "x")))) {} =
      .ok ([enclosingDraft], s') ∧ "X" ∈ s'.imports) ∧
    ofDraft enclosingDraft = .ok enclosingProgram ∧
    executeAll {} 20 enclosingProgram.body {} = .error (.failed (.unknownPackage "X")) {} ∧
    (∃ m', executeAll {} 20 enclosingProgram.body.tail {} = .error (.failed .unsetLocal) m') ∧
    (outcome 20 enclosingProgram.body.tail).slot? (.global "X") = some (.object 1) ∧
    (outcome 20 enclosingProgram.body.tail).store.get? 1 = some (.cell .null) :=
  ⟨meets_enclosed (capitals_x ▸ .here), visits_assigned _, mem_cons_self, not_mem_nil,
    ⟨_, compile_enclosing, mem_cons_self⟩, ofDraft_enclosing, rfl, ⟨_, rfl⟩, rfl, rfl⟩

end Compile
end BlockScript
