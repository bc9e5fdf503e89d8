import BlockScript.Proofs.DatabaseBrackets
import BlockScript.Proofs.PackageMembers
import BlockScript.Proofs.RunEffects
import BlockScript.Target.OfDraft

/-!
Routines with transactions of their own. The pragma becomes a statement of the routine, which makes
a connection.
-/

namespace BlockScript

namespace Compile

def autonomousDraft : Draft := .call (.member (.ident "PLCURSOR") "AUTONOMOUS_TRANSACTION") []

inductive IsAutonomous : Tree Token → Prop where
  | mk (is : kind = .procedureBody ∨ kind = .functionBody)
      (declared : .node .seqOfDeclareSpecs declarations ∈ children)
      (pragma : .node .declareSpec [.node .pragmaDeclaration words] ∈ declarations)
      (autonomous : has words .AUTONOMOUS_TRANSACTION = true) : IsAutonomous (.node kind children)

variable {id : String} {made : Draft}

lemma drafts_of_mem (mem : t ∈ ts) (comp : compileAll src ts s = .ok (ds, s')) :
    ∃ own s1 s2, compile src t s1 = .ok (own, s2) ∧ own ⊆ ds := by
  obtain ⟨front, back, rfl⟩ := List.append_of_mem mem
  obtain ⟨first, rest, s1, -, later, rfl⟩ := compileAll_append_inv comp
  obtain ⟨own, others, s2, here, -, rfl⟩ := compileAll_cons_inv later
  exact ⟨own, s1, s2, here, fun d mem => mem_append_right _ (mem_append_left _ mem)⟩

lemma mem_routine (assembled : routine parts = .ok (id, made)) (mem : d ∈ parts)
    (noName : d.id? = none) (noParameter : d.isParameter = false)
    (noType : d.isTypeMark = false) :
    ∃ ps, ∃ bs : List Draft, made = .function id ps (bs.map Draft.asStatement) [] ∧ d ∈ bs := by
  obtain ⟨⟨name, rest⟩, split, next⟩ := steps_of_bind assembled
  obtain rfl := first_inv split
  dsimp only at next
  split at next
  · cases next
  obtain ⟨own, named, next⟩ := steps_of_bind next
  cases next
  refine ⟨_, _, rfl, (List.mem_eraseP_of_neg (by simp [noType])).2 ?_⟩
  rcases mem_cons.1 mem with rfl | mem
  · rw [nameOf, noName] at named
    cases named
  · rw [← List.takeWhile_append_dropWhile (p := Draft.isParameter) (l := rest)] at mem
    rcases mem_append.1 mem with front | back
    · have isParameter := all_eq_true.1 List.all_takeWhile d front
      grind
    · exact back

lemma IsAutonomous.drafted (autonomous : IsAutonomous t) (comp : compile src t s = .ok (ds, s')) :
    ∃ id ps, ∃ bs : List Draft, ds = [.function id ps (bs.map Draft.asStatement) []] ∧
      autonomousDraft ∈ bs := by
  obtain ⟨is, declared, pragma, autonomous⟩ := autonomous
  obtain ⟨parts, s1, id, made, inner, assembled, rfl, -⟩ := compile_routine_inv is comp
  obtain ⟨own, _, _, here, among⟩ := drafts_of_mem declared inner
  obtain ⟨drafts, s2, inner, whole⟩ := parts_of_compile here
  obtain ⟨names, s3, -, whole⟩ := bind_inv whole
  cases whole
  obtain ⟨own, _, _, here, among'⟩ := drafts_of_mem pragma inner
  obtain ⟨drafts, s4, inner, whole⟩ := parts_of_compile here
  cases whole
  have single := compileAll_single_inv inner
  rw [compile, if_pos autonomous] at single
  cases single
  have mem : autonomousDraft ∈ parts := among (among' mem_cons_self)
  obtain ⟨ps, bs, rfl, mem⟩ := mem_routine assembled mem rfl rfl rfl
  exact ⟨id, ps, bs, rfl, mem⟩

end Compile

namespace Target

def autonomous : Stmt :=
  .expr (.call (.attribute (.name "PLCURSOR") "AUTONOMOUS_TRANSACTION") [])

variable {w : Written} {ss : List Stmt}

def Written.Has (s : Stmt) : Written → Prop
  | .lines before last => s ∈ before ++ [last]
  | _ => False

lemma Written.has_line (written : w.line s = some w') : w'.Has s ∧ ∀ s', w.Has s' → w'.Has s' := by
  cases w with
  | nothing =>
    cases written
    exact ⟨mem_cons_self, nofun⟩
  | behindHeader e => cases written
  | lines before last =>
    cases written
    exact ⟨mem_append_right _ mem_cons_self, fun s' has => mem_append_left _ has⟩

lemma Written.has_lines (written : ss.foldlM (fun w s => Written.line s w) w = some w') :
    (∀ s ∈ ss, w'.Has s) ∧ ∀ s', w.Has s' → w'.Has s' := by
  induction ss generalizing w with
  | nil => grind
  | cons s ss ih =>
    obtain ⟨w1, first, written⟩ := bind_eq_some_iff.1 written
    obtain ⟨own, kept⟩ := has_line first
    obtain ⟨all, kept'⟩ := ih written
    exact ⟨forall_mem_cons.2 ⟨kept' s own, all⟩, fun s' has => kept' s' (kept s' has)⟩

lemma has_toBody (own : ∀ d ∈ ds, isBare d = false) (written : toBody w ds = some stmts) :
    (∀ d ∈ ds, ∀ lines, toStmts d = some lines → lines ⊆ stmts) ∧ ∀ s, w.Has s → s ∈ stmts := by
  induction ds generalizing w with
  | nil =>
    refine ⟨nofun, fun s has => ?_⟩
    cases w with
    | lines before last =>
      cases written
      exact has
    | _ => cases has
  | cons d ds ih =>
    obtain ⟨here, later⟩ := forall_mem_cons.1 own
    rw [toBody, if_neg (by simp [here])] at written
    obtain ⟨lines, own, written⟩ := bind_eq_some_iff.1 written
    obtain ⟨w1, folded, written⟩ := bind_eq_some_iff.1 written
    obtain ⟨all, kept⟩ := Written.has_lines folded
    obtain ⟨others, kept'⟩ := ih later written
    grind

lemma isBare_asStatement (d : Draft) : isBare d.asStatement = false := by
  unfold Draft.asStatement
  split
  case _ isExpr => cases d <;> first | rfl | cases isExpr
  · rfl

lemma mem_autonomous {id : String} {bs : List Draft} {body : List Stmt}
    (written : toStmts (.function id ps (bs.map Draft.asStatement) decorators) =
      some [.function name parameters isStatic body]) (mem : Compile.autonomousDraft ∈ bs) :
    autonomous ∈ body := by
  obtain ⟨_, -, written⟩ := bind_eq_some_iff.1 written
  obtain ⟨_, -, written⟩ := bind_eq_some_iff.1 written
  obtain ⟨stmts, drafted, written⟩ := bind_eq_some_iff.1 written
  cases written
  have own : ∀ d ∈ bs.map Draft.asStatement, isBare d = false := by
    intro d mem
    obtain ⟨d', -, rfl⟩ := mem_map.1 mem
    exact isBare_asStatement d'
  have line : toStmts Compile.autonomousDraft.asStatement = some [autonomous] := by rfl
  exact (has_toBody own drafted).1 _ (mem_map_of_mem mem) _ line mem_cons_self

end Target

namespace Run

open Target Eval Machine Database

variable {f : α → Eval β}

/-- A computation makes a connection and goes on from there, or it fails and leaves the connections
alone. -/
def Opens (x : Eval α) (m : Machine) : Prop :=
  Connect.Fails x m ∨ ∃ work, Runs (.connect :: work) m.database (x.after m).database

lemma Opens.bind (opens : Opens x m) (later : ∀ v m', x m = .ok v m' →
      ∃ moves, Runs moves m'.database ((f v).after m').database) : Opens (x >>= f) m := by
  rcases opens with fails | ⟨work, runs⟩
  · exact .inl fails.bind
  · right
    cases result : x m with
    | error stop m' =>
      refine ⟨work, ?_⟩
      rw [after, result] at runs
      rw [after, bind_error result]
      exact runs
    | ok v m' =>
      obtain ⟨moves, runs'⟩ := later v m' result
      rw [after, result] at runs
      rw [after_bind result]
      exact ⟨work ++ moves, runs.trans runs'⟩

lemma Opens.behind (ends : Ends (fun m m' => m.database.Rests m'.database) x m Q)
    (next : ∀ v m', Q v m' → Opens (f v) m') : Opens (x >>= f) m := by
  unfold Ends at ends
  split at ends
  case _ v m' result =>
    obtain ⟨rests, promised⟩ := ends
    rcases next v m' promised with ⟨stop, m'', failed, rests'⟩ | ⟨work, runs⟩
    · exact .inl ⟨stop, m'', (bind_ok result).trans failed, rests.trans rests'⟩
    · right
      rw [after_bind result]
      exact ⟨work, runs.of_rests rests⟩
  case _ stop m' result => exact .inl ⟨stop, m', bind_error result, ends⟩

lemma Opens.congr (opens : Opens y m) (same : x m = y m) : Opens x m := by
  unfold Opens Connect.Fails after at opens ⊢
  rwa [same]

lemma opens_apply (m) : Opens (Library.apply .autonomous []) m := by
  refine Opens.bind ?_ fun _ m' _ => ⟨[], .refl m'.database⟩
  refine .congr ?_ (Connect.start_of_try (.inl rfl))
  refine .behind ((keeps_truth (R := Aside) _ m).imp (fun m' aside => ?_)
    fun _ _ _ => id) fun isSet m1 _ => ?_
  · rw [aside.database]
    exact .refl _
  · cases isSet with
    | false => exact .inl ⟨_, m1, rfl, .refl _⟩
    | true => exact .inr ⟨[], .of_moves (.connect _ _)⟩

lemma opens_autonomous (knows : lookUp place "PLCURSOR" m = .ok (.library .cursors) m)
    (steps) : Opens (execute place steps autonomous) m := by
  match steps with
  | 0 | 1 | 2 | 3 => exact .inl ⟨.exhausted, m, rfl, .refl _⟩
  | steps + 4 =>
    have mem : evaluate place (steps + 2)
        (.attribute (.name "PLCURSOR") "AUTONOMOUS_TRANSACTION") m =
          .ok (.routine .autonomous) m := by
      exact bind_ok knows
    have called : evaluate place (steps + 3)
        (.call (.attribute (.name "PLCURSOR") "AUTONOMOUS_TRANSACTION") []) m =
          Library.apply .autonomous [] m := by
      exact bind_ok mem
    refine Opens.bind ?_ fun _ m' _ => ⟨[], .refl m'.database⟩
    refine Opens.bind ?_ fun _ m' _ => ⟨[], .refl m'.database⟩
    exact (opens_apply m).congr called

lemma bears_moves : Bears Moving (fun m m' => ∃ moves, Runs moves m.database m'.database)
    fun _ _ => True where
  here _ := ⟨[], .refl _⟩
  trans first second := by
    obtain ⟨moves, runs⟩ := first
    obtain ⟨moves', runs'⟩ := second
    exact ⟨moves ++ moves', runs.trans runs'⟩
  follow _ moving := moving.runs
  note _ _ same := ⟨[], .rest (by rw [same]; exact .refl _)⟩
  push _ _ := ⟨[], .refl _⟩
  package _ _ := ⟨[], .refl _⟩
  bind _ _ _ := ⟨[], .refl _⟩
  fresh _ _ _ := trivial
  unset _ bound := absurd trivial bound

lemma runs_executeAll (place steps body m) :
    ∃ moves, Runs moves m.database ((executeAll place steps body).after m).database :=
  ((bears_moves.safe steps).executeAll place body (fun _ _ _ _ _ => trivial) m ⟨[], .refl _⟩).after

lemma executeAll_append (place steps before rest) :
    executeAll place steps (before ++ rest) = (do
      match ← executeAll place steps before with
      | .next => executeAll place (steps - before.length) rest
      | flow => return flow) := by
  induction before generalizing steps with
  | nil =>
    cases steps <;> rfl
  | cons s before ih =>
    cases steps with
    | zero => rfl
    | succ steps =>
      rw [cons_append, executeAll, executeAll, bind_assoc]
      refine bind_congr fun flow => ?_
      cases flow with
      | next => rw [ih, length_cons, Nat.succ_sub_succ]
      | _ => rfl

lemma opens_deeper {action : Eval α} (opens : Opens action { m with depth := m.depth + 1 }) :
    Opens (deeper action) m := by
  by_cases tooDeep : callLimit ≤ m.depth
  · refine .inl ⟨.failed .tooDeep, m, ?_, .refl _⟩
    change (if callLimit ≤ m.depth then _ else _ : Eval α) m = _
    rw [if_pos tooDeep]
    rfl
  · have same := deeper_eq action tooDeep
    cases result : action { m with depth := m.depth + 1 } with
    | ok v m' =>
      rw [result] at same
      rcases opens with ⟨stop, m'', failed, rests⟩ | ⟨work, runs⟩
      · cases result.symm.trans failed
      · right
        rw [after, result] at runs
        rw [after, same]
        exact ⟨work, runs⟩
    | error stop m' =>
      rw [result] at same
      rcases opens with ⟨stop, m'', failed, rests⟩ | ⟨work, runs⟩
      · cases result.symm.trans failed
        exact .inl ⟨_, _, same, rests⟩
      · right
        rw [after, result] at runs
        rw [after, same]
        exact ⟨work, runs⟩

def bodyPlace (m : Machine) (f : Function) : Run.Place :=
  { frame := some m.store.size, used := usedInStmts f.body }

def begun (m : Machine) (f : Function) (arguments : List Value) : Machine :=
  { m.entered f arguments with depth := m.depth + 1 }

/-- The first statements of a routine leave the connections alone, and if they succeed, the library
is known by its name behind them. -/
def Heralds (before : List Stmt) (m : Machine) (f : Function) (arguments : List Value) : Prop :=
  ∀ steps, Ends (fun m m' => m.database.Rests m'.database)
    (executeAll (bodyPlace m f) steps before) (begun m f arguments) fun flow m' =>
      flow = .next ∧ lookUp (bodyPlace m f) "PLCURSOR" m' = .ok (.library .cursors) m'

lemma opens_executeAll
    (heralds : Ends (fun m m' => m.database.Rests m'.database) (executeAll place steps before) m fun
      flow m' => flow = .next ∧ lookUp place "PLCURSOR" m' = .ok (.library .cursors) m') :
    Opens (executeAll place steps (before ++ autonomous :: rest)) m := by
  rw [executeAll_append]
  refine .behind heralds ?_
  rintro _ m1 ⟨rfl, knows⟩
  generalize steps - before.length = steps
  cases steps with
  | zero => exact .inl ⟨.exhausted, m1, rfl, .refl _⟩
  | succ steps =>
    refine .bind (opens_autonomous knows steps) fun flow m2 _ => ?_
    cases flow with
    | next => exact runs_executeAll _ steps rest m2
    | _ => exact ⟨[], .refl _⟩

lemma opens_call {f : Function} (found : m.store.get? a = some (.function f))
    (body : f.body = before ++ autonomous :: rest) (heralds : Heralds before m f given)
    (steps) :
    Opens (call steps (.object a) given) m := by
  cases steps with
  | zero => exact .inl ⟨.exhausted, m, rfl, .refl _⟩
  | succ steps =>
    refine .behind (Q := fun o m' => o = some (.function f) ∧ m' = m)
      (.of_ok (load?_eq m a) (.refl _) ⟨found, rfl⟩) ?_
    rintro _ _ ⟨rfl, rfl⟩
    by_cases same : given.length = f.parameters.length
    · refine .behind (Q := fun frame m' => frame = _ ∧ m' = _)
        (.of_ok (enter_eq same _) (.refl _) ⟨rfl, rfl⟩) ?_
      rintro _ _ ⟨rfl, rfl⟩
      refine .bind (opens_deeper ?_) fun flow m' _ => ⟨[], by cases flow <;> exact .refl _⟩
      change Opens (executeAll (bodyPlace _ f) steps f.body) (begun _ f given)
      rw [body]
      exact opens_executeAll (heralds steps)
    · have differ : (given.length != f.parameters.length) = true := bne_iff_ne.2 same
      refine .inl (.bind ⟨.failed .unsuited, _, ?_, .refl _⟩)
      unfold enter
      rw [if_pos differ]
      rfl

end Run

namespace Compile

open Target Database Core

/-- For every routine with the pragma that is written as a routine of a program: the pragma is one
of its statements. Let what stands before it leave the connections alone. Then a call with any
connections open fails before anything happens to them, or it makes a connection and goes on to do
some work. The connections of the caller are spared by the work, and are the same in the end, just
if the work is balanced; if it consists of statements, commits and rollbacks only, just if its last
part is its only commit or rollback. -/
theorem autonomous_bracketed_iff {source id name : String} {t : Tree Token} {s s' : Scope}
    {ps bs decorators : List Draft} {parameters : List String} {isStatic : Bool} {body : List Stmt}
    (autonomous : IsAutonomous t)
    (compiled : compile source t s = .ok ([.function id ps bs []], s'))
    (written : toStmts (.function id ps bs decorators) =
      some [.function name parameters isStatic body]) :
    (∃ before rest, body = before ++ Target.autonomous :: rest) ∧
      ∀ (before rest : List Stmt) (f : Function) (a : Nat) (m : Machine) (arguments : List Value)
        (steps : Nat), body = before ++ Target.autonomous :: rest → f.body = body →
        m.store.get? a = some (.function f) → m.database.connections ≠ [] → m.database.IsLogged →
        Run.Heralds before m f arguments →
        let d := m.database
        let d' := ((Run.call steps (.object a) arguments).after m).database
        (Connect.Fails (Run.call steps (.object a) arguments) m ∧ Brackets d d' ∨
          ∃ work, Runs (.connect :: work) d d') ∧
        ∀ work, Runs (.connect :: work) d d' →
          (Brackets d d' ↔ IsBalanced (d.connections.length == 1) 1 work) ∧
          ((∀ move ∈ work, move.IsWork) → (Brackets d d' ↔ ∃ n last,
            work = List.replicate n .execute ++ [last] ∧ (last = .commit ∨ last = .rollback))) := by
  obtain ⟨_, _, bs, same, member⟩ := autonomous.drafted compiled
  cases same
  refine ⟨List.append_of_mem (mem_autonomous written member), ?_⟩
  intro before rest f a m arguments steps split isBody found isOpen logged heralds d d'
  have old : ∀ c ∈ d.connections, c.id < d.made := fun c isConnection =>
    logged.orderly.stackMade c.id (mem_map_of_mem isConnection)
  constructor
  · rcases Run.opens_call found (isBody.trans split) heralds steps with fails | opened
    · left
      obtain ⟨stop, m', failed, rests⟩ := fails
      have left : d' = m'.database := by
        simp only [d', Eval.after, failed]
      rw [left]
      exact ⟨⟨stop, m', failed, rests⟩, (brackets_iff isOpen old (.rest rests)).2 rfl⟩
    · exact .inr opened
  · intro work runs
    have balanced := brackets_iff isOpen old runs
    exact ⟨balanced, fun plain => balanced.trans (isBalanced_work_iff plain)⟩

def pragmaWords : List (Tree Token) :=
  [leafOf .PRAGMA "pragma", leafOf .AUTONOMOUS_TRANSACTION "autonomous_transaction",
    leafOf .SEMICOLON ";"]

def autonomousTree (statement : Tree Token) : Tree Token :=
  .node .procedureBody
    [leafOf .PROCEDURE "procedure", identifierTree "t", leafOf .IS "is",
      .node .seqOfDeclareSpecs [.node .declareSpec [.node .pragmaDeclaration pragmaWords]],
      .node .body
        [leafOf .BEGIN "begin",
          .node .seqOfStatements [.node .statement [statement], leafOf .SEMICOLON ";"],
          leafOf .END "end"],
      leafOf .SEMICOLON ";"]

def commitTree : Tree Token :=
  .node .sqlStatement
    [.node .transactionControlStatements [.node .commitStatement [leafOf .COMMIT "commit"]]]

def idleTree : Tree Token := .node .nullStatement [leafOf .NULL "null"]

lemma isAutonomous_tree (statement) : IsAutonomous (autonomousTree statement) := by
  have isPragma : has pragmaWords .AUTONOMOUS_TRANSACTION = true := by decide
  exact .mk (.inl rfl) (by simp) (mem_singleton_self _) isPragma

def commits : Stmt := .expr (.call (.attribute (.name "PLCURSOR") "commit") [])

def procedure (body : List Stmt) : Function :=
  { name := "T", parameters := [], isStatic := false, body, outer := none }

def callerMachine (body : List Stmt) : Machine :=
  let imported := (Run.importAll "PLCURSOR").after {}
  ((Library.apply .setup [.text "d"]).after imported).push (.function (procedure body))

lemma heralds_nothing {body : List Stmt} (none : boundInAll body = []) :
    Run.Heralds [] (callerMachine body) (procedure body) [] := by
  intro steps
  cases steps with
  | zero => exact .throw (.refl _)
  | succ steps =>
    refine .pure (.refl _) ⟨rfl, ?_⟩
    simp only [Run.begun, Machine.entered, procedure, none]
    rfl

theorem commit_brackets :
    Brackets (callerMachine [Target.autonomous, commits]).database
      ((Run.call 20 (.object 1) []).after
        (callerMachine [Target.autonomous, commits])).database := by
  obtain ⟨s', compiled⟩ : ∃ s', compile "" (autonomousTree commitTree) {} = .ok ([.function "T" []
      [.expr autonomousDraft, .expr (.call (.member (.ident "PLCURSOR") "commit") [])] []], s') :=
    ⟨_, by with_unfolding_all rfl⟩
  have written : toStmts (.function "T" [] [.expr autonomousDraft,
      .expr (.call (.member (.ident "PLCURSOR") "commit") [])] []) =
        some [.function "T" [] false [Target.autonomous, commits]] := by rfl
  have logged : (callerMachine [Target.autonomous, commits]).database.IsLogged :=
    Logged.start.connect _
  obtain ⟨-, outcome⟩ := (autonomous_bracketed_iff (isAutonomous_tree _) compiled written).2 []
    [commits] (procedure _) 1 (callerMachine _) [] 20 rfl rfl rfl (cons_ne_nil _ _) logged
    (heralds_nothing rfl)
  have top : ((callerMachine [Target.autonomous, commits]).database.connect (.text "d")).top? =
      some { id := 1 } := rfl
  have runs : Runs [.connect, .commit] (callerMachine [Target.autonomous, commits]).database
      ((Run.call 20 (.object 1) []).after (callerMachine [Target.autonomous, commits])).database :=
    .move (.refl _) (.connect _ (.text "d")) (.of_moves (.commit top))
  refine ((outcome _ runs).2 fun move member => ?_).2 ⟨0, .commit, rfl, .inl rfl⟩
  rw [mem_singleton.1 member]
  exact .commit

/-- A routine that does nothing leaves its connection to the caller. -/
theorem idle_leaves_connection :
    ∃ s' body m', IsAutonomous (autonomousTree idleTree) ∧
      compile "" (autonomousTree idleTree) {} = .ok ([.function "T" [] body []], s') ∧
      toStmts (.function "T" [] body []) =
        some [.function "T" [] false [Target.autonomous, .pass]] ∧
      Run.Heralds [] (callerMachine [Target.autonomous, .pass])
        (procedure [Target.autonomous, .pass]) [] ∧
      Run.call 20 (.object 1) [] (callerMachine [Target.autonomous, .pass]) = .ok .none m' ∧
      (callerMachine [Target.autonomous, .pass]).database.ids = [0] ∧ m'.database.ids = [1, 0] ∧
      ¬ Brackets (callerMachine [Target.autonomous, .pass]).database m'.database := by
  obtain ⟨s', compiled⟩ : ∃ s', compile "" (autonomousTree idleTree) {} =
      .ok ([.function "T" [] [.expr autonomousDraft, .expr .pass] []], s') :=
    ⟨_, by with_unfolding_all rfl⟩
  refine ⟨s', _, _, isAutonomous_tree _, compiled, by rfl, heralds_nothing rfl, rfl, rfl, rfl, ?_⟩
  intro brackets
  cases congrArg List.length brackets.connections

end Compile
end BlockScript
