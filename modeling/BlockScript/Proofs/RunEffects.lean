import BlockScript.Proofs.LibraryEffects

/-!
What a run can do to a machine. A run works with the library, makes objects of its own, and binds
names where it stands.
-/

namespace BlockScript.Target

mutual
def Stmt.declares : Stmt → List String
  | .assign target _ => [target]
  | .branch _ body orelse => declaredInAll body ++ declaredInAll orelse
  | .whileLoop _ body => declaredInAll body
  | .forLoop target _ body => target :: declaredInAll body
  | .guard body handlers => declaredInAll body ++ declaredInHandlers handlers
  | .function name .. | .classDef name .. => [name]
  | _ => []

def declaredInAll : List Stmt → List String
  | [] => []
  | s :: rest => s.declares ++ declaredInAll rest

def declaredInHandlers : List Handler → List String
  | [] => []
  | .mk _ body :: rest => declaredInAll body ++ declaredInHandlers rest
end

end BlockScript.Target

namespace BlockScript

open Target

def Machine.entered (m : Machine) (f : Function) (arguments : List Value) : Machine :=
  m.push (.frame
    { own := f.parameters ++ boundInAll f.body
      values := Bindings.setAll [] (f.parameters.zip arguments)
      outer := f.outer })

end BlockScript

namespace BlockScript.Run

open Target Eval Machine

lemma enter_eq (same : args.length = f.parameters.length) (m) :
    enter f args m = .ok m.store.size (m.entered f args) := by
  unfold enter
  rw [same, bne_self_eq_false, if_neg Bool.false_ne_true]
  rfl

lemma deeper_eq (action : Eval α) (room : ¬ callLimit ≤ m.depth) :
    deeper action m = match action { m with depth := m.depth + 1 } with
      | .ok v m' => .ok v { m' with depth := m.depth }
      | .error stop m' => .error stop { m' with depth := m.depth } := by
  unfold deeper
  rw [bind_ok (show (get : Eval Machine) m = .ok m m from rfl)]
  rw [if_neg room]
  change EStateM.bind _ _ { m with depth := m.depth + 1 } = _
  cases result : action { m with depth := m.depth + 1 } <;>
  · simp only [EStateM.bind, tryCatch, tryCatchThe, MonadExceptOf.tryCatch, EStateM.tryCatch, bind,
      result]
    rfl

section

variable {B R : Machine → Machine → Prop} {Q : α → Machine → Prop} (tracks : Table.Tracks B R)
  (note : ∀ {m m' : Machine}, R m m → m'.store = m.store → m'.globals = m.globals →
    m'.database = m.database → R m m')
  (stable : ∀ v (m m' : Machine), R m m' → Q v m → Q v m')
include tracks note stable

lemma ends_restoring (store : ∀ m, (restore m).store = m.store)
    (globals : ∀ m, (restore m).globals = m.globals)
    (db : ∀ m, (restore m).database = m.database) (acts : Ends R action m Q) :
    Ends R (do
      try
        let result ← action
        modify restore
        return result
      catch stop =>
        modify restore
        throw stop) m Q := by
  have restored {m1} (first : R m m1) : R m1 (restore m1) :=
    note (tracks.here first) (store m1) (globals m1) (db m1)
  refine .bind tracks.trans (.tryCatch tracks.trans (Q := fun e m' => ∃ v, e = .error v ∧ Q v m')
    ?_ ?_) ?_
  · refine .bind tracks.trans acts fun v m1 first promised => ?_
    exact .of_ok rfl (restored first) ⟨v, rfl, stable v m1 _ (restored first) promised⟩
  · exact fun stop m1 first => restored first
  · rintro _ m1 first ⟨v, rfl, promised⟩
    exact .pure (tracks.here first) promised

variable (start : R m m) (acts : ∀ m', R m m' → Ends R action m' Q)
include start acts

lemma ends_handling (cause : Failure) : Ends R (handling cause action) m Q := by
  refine .bind tracks.trans (.of_ok rfl start (Q := fun machine m' => m = machine ∧ m = m')
    ⟨rfl, rfl⟩) ?_
  rintro _ _ - ⟨rfl, rfl⟩
  have handled : R m { m with handling := cause :: m.handling } := note start rfl rfl rfl
  refine .bind tracks.trans (.of_ok rfl handled (Q := fun _ _ => True) trivial)
    fun _ m1 first _ => ?_
  exact ends_restoring tracks note stable (fun _ => rfl) (fun _ => rfl) (fun _ => rfl)
    (acts m1 first)

lemma ends_deeper : Ends R (deeper action) m Q := by
  refine .bind tracks.trans (.of_ok rfl start (Q := fun machine m' => m = machine ∧ m = m')
    ⟨rfl, rfl⟩) ?_
  rintro _ _ - ⟨rfl, rfl⟩
  dsimp only
  split
  · exact .fail_bind start
  · have deep : R m { m with depth := m.depth + 1 } := note start rfl rfl rfl
    refine .bind tracks.trans (.of_ok rfl deep (Q := fun _ _ => True) trivial)
      fun _ m1 first _ => ?_
    exact ends_restoring tracks note stable (fun _ => rfl) (fun _ => rfl) (fun _ => rfl)
      (acts m1 first)

end

section

variable [Asking R] (place : Place) (name : String)

lemma frameAt_eq (found : m.store.get? a = some (.frame f)) : frameAt a m = .ok f m := by
  rw [frameAt, bind_ok (load?_eq m a), found]
  rfl

lemma ends_frameAt (start : S m m) (a : Nat) :
    Ends S (frameAt a) m fun f m' => m' = m ∧ m.store.get? a = some (.frame f) := by
  refine .load ?_
  split
  case _ f found => exact .pure start ⟨rfl, found⟩
  · exact .fail start

lemma keeps_frameAt (a) : Keeps R (frameAt a) := fun m => (ends_frameAt (Asking.refl m) a).forget

lemma keeps_globalName : Keeps R (globalName name) := by
  refine .bind .get fun machine => ?_
  split
  · exact .pure _
  · split
    · exact .pure _
    · exact .fail _

lemma keeps_frameName (steps) : ∀ cause frame, Keeps R (frameName name cause steps frame) := by
  induction steps with
  | zero => exact fun _ _ => keeps_globalName name
  | succ steps ih =>
    intro cause frame
    cases frame with
    | none => exact keeps_globalName name
    | some a =>
      refine (keeps_frameAt a).bind fun f => ?_
      split
      · split
        · exact .pure _
        · exact .fail _
      · exact ih _ f.outer

lemma keeps_lookUp : Keeps R (lookUp place name) := by
  refine .bind .get fun machine => ?_
  split
  · refine (keeps_load? _).bind fun o => ?_
    split
    · split
      · exact .pure _
      · exact keeps_frameName name _ _ _
    · exact .fail _
  · exact keeps_frameName name _ _ _

lemma keeps_outerValues (names) (outer : Option Address) : Keeps R (outerValues names outer) := by
  have owner (name steps) : ∀ frame, Keeps R (outerValues.ownerValue name steps frame) := by
    induction steps with
    | zero => exact fun _ => .pure _
    | succ steps ih =>
      intro frame
      cases frame with
      | none => exact .pure _
      | some a =>
        refine (keeps_frameAt a).bind fun f => ?_
        split
        · exact .pure _
        · exact ih f.outer
  refine .bind .get fun machine => .foldlM (fun found name => (owner name _ _).bind fun o => ?_) _ _
  split <;> exact .pure _

lemma keeps_localNames : Keeps R (localNames place) := by
  unfold localNames
  split
  · refine (keeps_load? _).bind fun o => ?_
    split <;> exact .pure _
  · exact (keeps_frameAt _).bind fun f => (keeps_outerValues _ _).bind fun _ => .pure _
  · exact .bind .get fun _ => .pure _

lemma keeps_basesOf (names) : Keeps R (basesOf place names) := by
  refine .mapM (fun name => (keeps_lookUp place name).bind fun v => ?_) names
  split
  · refine (keeps_load? _).bind fun o => ?_
    split
    · exact .pure _
    · exact .fail _
  · exact .fail _

end

/-- A relation between machines that runs cannot leave. Operations on values are known by another
relation. Of each frame, some names can be bound; the others belong to it and have no value. -/
structure Bears (B S : Machine → Machine → Prop) [Storing B] (free : Nat → String → Prop) : Prop
    extends Table.Tracks B S where
  note : ∀ {m m' : Machine}, S m m → m'.store = m.store → m'.database = m.database → S m m'
  push : ∀ {m : Machine} {o : Object}, S m m → o.IsOfProgram → S m (m.push o)
  package : ∀ {m : Machine} {a : Nat} {p : Package} {name : String} {v : Value}, S m m →
    m.store.get? a = some (.package p) →
      S m (m.put a (.package { p with members := p.members.set name v }))
  bind : ∀ {m : Machine} {a : Nat} {f : Frame} {name : String} {v : Value}, S m m →
    m.store.get? a = some (.frame f) → free a name →
      S m (m.put a (.frame { f with values := f.values.set name v }))
  fresh : ∀ {m : Machine} {a : Nat}, S m m → m.store.size ≤ a → ∀ name, free a name
  unset : ∀ {m : Machine} {a : Nat} {name : String}, S m m → ¬ free a name →
    ∃ f, m.store.get? a = some (.frame f) ∧ name ∈ f.own ∧ f.values.get? name = none

def Fits (free : Nat → String → Prop) (place : Place) (names : List String) : Prop :=
  ∀ a, place.package = none → place.frame = some a → ∀ name ∈ names, free a name

lemma Fits.mono (fits : Fits free place names) (fewer : ∀ name ∈ names', name ∈ names) :
    Fits free place names' :=
  fun a outside here name mem => fits a outside here name (fewer name mem)

/-- A computation stays within a relation wherever it begins in it. -/
def Within (S : Machine → Machine → Prop) {α : Type} (x : Eval α) : Prop :=
  ∀ m, S m m → Ends S x m fun _ _ => True

namespace Within

lemma pure (v : α) : Within S (Pure.pure v) := fun _ start => .pure start trivial

lemma fail (cause : Failure) : Within S (Eval.fail cause : Eval α) := fun _ start => .fail start

lemma raising (v) : Within S (Run.raising v : Eval α) := by
  unfold Run.raising
  split <;> exact .fail _

lemma exceptionOf (v) : Within S (Run.exceptionOf v) := by
  unfold Run.exceptionOf
  split
  · exact .pure _
  · exact .fail _

end Within

/-- What runs of some steps do is allowed. -/
structure Safe (S : Machine → Machine → Prop) (free : Nat → String → Prop) (steps : Nat) :
    Prop where
  evaluate : ∀ place e, Within S (evaluate place steps e)
  evaluateAll : ∀ place es, Within S (evaluateAll place steps es)
  connect : ∀ place connective es, Within S (connect place steps connective es)
  call : ∀ v arguments, Within S (call steps v arguments)
  execute : ∀ place s, Fits free place s.declares → Within S (execute place steps s)
  executeAll : ∀ place body, Fits free place (declaredInAll body) →
    Within S (executeAll place steps body)
  repeatWhile : ∀ place test body, Fits free place (declaredInAll body) →
    Within S (repeatWhile place steps test body)
  repeatOver : ∀ place target n count body, Fits free place (target :: declaredInAll body) →
    Within S (repeatOver place steps target n count body)
  handle : ∀ place cause handlers, Fits free place (declaredInHandlers handlers) →
    Within S (handle place steps cause handlers)

lemma lookUp_unset (outside : place.package = none)
    (here : place.frame = some a) (found : m.store.get? a = some (.frame f)) (own : name ∈ f.own)
    (unset : f.values.get? name = none) :
    lookUp place name m = .error (.failed .unsetLocal) m := by
  obtain ⟨size, more⟩ := Nat.exists_eq_succ_of_ne_zero (Nat.ne_zero_of_lt (get?_lt found))
  rw [lookUp_outside outside, here, more]
  rw [frameName, bind_ok (frameAt_eq found), if_pos (contains_iff_mem.2 own), unset]
  rfl

namespace Bears

variable [Storing B]

section

variable (bears : Bears B S free)
include bears

lemma lift (keeps : Keeps B x) : Within S x := fun m start => bears.toTracks.lift start (keeps m)

lemma next (first : Within S x) (rest : ∀ v, Within S (f v)) : Within S (x >>= f) := fun m start =>
  .bind bears.trans (first m start) fun v m' rel _ => rest v m' (bears.here rel)

lemma ends_lookUp (start : S m m) (name) :
    Ends S (lookUp place name) m fun _ _ => Fits free place [name] := by
  by_cases fits : Fits free place [name]
  · exact (bears.lift (keeps_lookUp place name) m start).weaken fun _ _ _ _ => fits
  · simp only [Fits, mem_singleton, forall_eq, Classical.not_forall] at fits
    obtain ⟨a, outside, here, bound⟩ := fits
    obtain ⟨f, found, own, unset⟩ := bears.unset start bound
    rw [Ends, lookUp_unset outside here found own unset]
    exact start

lemma ends_setMember (start : S m m) (target name v) :
    Ends S (Library.setMember target name v) m fun _ _ => True := by
  by_cases isPackage : ∃ a p, target = .object a ∧ m.store.get? a = some (.package p)
  · obtain ⟨a, p, rfl, found⟩ := isPackage
    refine .load ?_
    rw [found]
    exact .of_ok rfl (bears.package start found) trivial
  · refine bears.toTracks.lift start (Library.ends_setMember (fun a p same found => ?_)
      fun _ _ cell _ => Storing.store cell)
    exact isPackage ⟨a, p, same, found⟩

lemma within_bindName (fits : Fits free place [name]) (v) : Within S (bindName place name v) := by
  intro m start
  unfold bindName
  split
  case _ a inside => exact bears.ends_setMember start _ name v
  case _ a outside here =>
    refine .bind bears.trans (ends_frameAt start a) ?_
    rintro f _ - ⟨rfl, found⟩
    exact .of_ok rfl (bears.bind start found (fits a outside here name mem_cons_self)) trivial
  case _ => exact .of_ok rfl (bears.note start rfl rfl) trivial

lemma within_handling (cause : Failure) (acts : Within S action) :
    Within S (handling cause action) := fun _ start =>
  ends_handling bears.toTracks (fun here store _ => bears.note here store) (fun _ _ _ _ => id) start
    (fun m' rel => acts m' (bears.here rel)) cause

lemma within_deeper (acts : Within S action) : Within S (deeper action) := fun _ start =>
  ends_deeper bears.toTracks (fun here store _ => bears.note here store) (fun _ _ _ _ => id) start
    fun m' rel => acts m' (bears.here rel)

lemma ends_enter (start : S m m) (f args) :
    Ends S (enter f args) m fun a _ => ∀ name, free a name := by
  unfold enter
  split
  · exact .fail_bind start
  · exact .of_ok rfl (bears.push start trivial) (bears.fresh start (Nat.le_refl _))

lemma within_importAll (pkg) : Within S (importAll pkg) := by
  intro m start
  unfold importAll
  split
  · exact .of_ok rfl (bears.note start rfl rfl) trivial
  · exact .fail start

lemma within_new (made : o.IsOfProgram) : Within S (new o) := fun m start =>
  .of_ok (new_eq o m) (bears.push start made) trivial

end

section

variable (bears : Bears B S free) (safe : Safe S free steps)
include bears safe

lemma evaluate_step (place e) : Within S (evaluate place (steps + 1) e) := by
  have value (e) := safe.evaluate place e
  unfold evaluate
  match e with
  | .name id => exact bears.lift (keeps_lookUp place id)
  | .attribute owner attr =>
    exact bears.next (value owner) fun v => bears.lift (Library.keeps_member v attr)
  | .call func args =>
    refine bears.next (value func) fun f => bears.next (safe.evaluateAll place args) fun given => ?_
    split
    · exact bears.lift ((keeps_localNames place).bind fun _ => keeps_new id)
    · exact safe.call f given
  | .constant _ => exact .pure _
  | .binary left op right =>
    exact bears.next (value left) fun a => bears.next (value right) fun b =>
      bears.lift (gives_calculate op a b).keeps
  | .compare left op right =>
    exact bears.next (value left) fun a => bears.next (value right) fun b =>
      bears.lift (gives_compare op a b).keeps
  | .compareBoth left op middle op' right =>
    refine bears.next (value left) fun a => bears.next (value middle) fun b =>
      bears.next (bears.lift (gives_compare op a b).keeps) fun result =>
        bears.next (bears.lift (keeps_truth result)) fun t => ?_
    split
    · exact bears.next (value right) fun c => bears.lift (gives_compare op' b c).keeps
    · exact .pure _
  | .connect conn operands => exact safe.connect place conn operands
  | .negative operand => exact bears.next (value operand) fun v => bears.lift (gives_neg v).keeps
  | .list items =>
    exact bears.next (safe.evaluateAll place items) fun _ => bears.lift (keeps_new id)
  | .subscript owner index =>
    exact bears.next (value owner) fun v => bears.next (value index) fun i m start =>
      Library.ends_getItem bears.toTracks safe.call v i start

lemma evaluateAll_step (place es) : Within S (evaluateAll place (steps + 1) es) := by
  cases es with
  | nil => exact .pure _
  | cons e rest =>
    exact bears.next (safe.evaluate place e) fun v => bears.next (safe.evaluateAll place rest)
      fun vs => .pure _

lemma connect_step (place) (conn : Connective) (es) :
    Within S (connect place (steps + 1) conn es) := by
  match es with
  | [] => exact .pure _
  | [e] => exact safe.evaluate place e
  | e :: e' :: rest =>
    unfold connect
    refine bears.next (safe.evaluate place e) fun v =>
      bears.next (bears.lift (keeps_truth v)) fun t => ?_
    split
    · exact .pure _
    · exact safe.connect place conn (e' :: rest)

lemma call_step (v args) : Within S (call (steps + 1) v args) := by
  intro m start
  have other := Library.ends_callValue bears.toTracks safe.call v args start
  unfold call
  cases v with
  | object a =>
    refine .load ?_
    split
    case _ f found =>
      refine .bind bears.trans (bears.ends_enter start f args) fun frame m1 first own => ?_
      refine bears.next (bears.within_deeper (safe.executeAll _ f.body ?_)) (fun flow => ?_) m1
        (bears.here first)
      · rintro _ - ⟨⟩ name -
        exact own name
      · split <;> exact .pure _
    · exact other
  | _ => exact other

lemma execute_step (place s) (fits : Fits free place s.declares) :
    Within S (execute place (steps + 1) s) := by
  have value (e) := safe.evaluate place e
  match s with
  | .expr e => exact bears.next (bears.next (value e) fun _ => .pure _) fun _ => .pure _
  | .assign target e =>
    exact bears.next (value e) fun v => bears.next (bears.within_bindName fits v) fun _ => .pure _
  | .update (.name target) e =>
    intro m start
    refine .bind bears.trans (bears.ends_lookUp start target) fun old m1 first fits => ?_
    refine bears.next (value e) (fun v => ?_) m1 (bears.here first)
    exact bears.next (bears.lift (keeps_assign old v)) fun w =>
      bears.next (bears.within_bindName fits w) fun _ => .pure _
  | .update (.attribute owner attr) e =>
    refine bears.next (value owner) fun o =>
      bears.next (bears.lift (Library.keeps_member o attr)) fun old => bears.next (value e) fun v =>
        bears.next (bears.lift (keeps_assign old v)) fun w => ?_
    exact bears.next (fun m start => bears.ends_setMember start o attr w) fun _ => .pure _
  | .update (.subscript owner index) e =>
    refine bears.next (value owner) fun o => bears.next (value index) fun i =>
      bears.next (fun m => Library.ends_getItem bears.toTracks safe.call o i) fun old =>
        bears.next (value e) fun v => bears.next (bears.lift (keeps_assign old v)) fun w => ?_
    exact bears.next (fun m => Library.ends_setItem bears.toTracks safe.call o i w) fun _ => .pure _
  | .pass | .breakLoop | .continueLoop | .returnValue none => exact .pure _
  | .branch test body orelse =>
    refine bears.next (value test) fun v => bears.next (bears.lift (keeps_truth v)) fun t => ?_
    split
    · exact safe.executeAll place body (fits.mono fun _ => mem_append_left _)
    · exact safe.executeAll place orelse (fits.mono fun _ => mem_append_right _)
  | .whileLoop test body => exact safe.repeatWhile place test body fits
  | .forLoop target range body =>
    refine bears.next (value range) fun v => ?_
    split
    · exact bears.next (bears.lift (Library.keeps_rangeBounds _ _)) fun bounds =>
        safe.repeatOver place target _ _ body fits
    · exact .fail _
  | .raiseError none =>
    intro m start
    refine .read ?_
    split <;> exact .fail start
  | .raiseError (some e) => exact bears.next (value e) .raising
  | .returnValue (some e) => exact bears.next (value e) fun v => .pure _
  | .guard body hs =>
    intro m start
    unfold execute
    refine .tryCatch bears.trans (safe.executeAll place body
      (fits.mono fun _ => mem_append_left _) m start) fun stop m1 first => ?_
    cases stop with
    | exhausted => exact .throw (bears.here first)
    | failed cause =>
      exact safe.handle place cause hs (fits.mono fun _ => mem_append_right _) m1 (bears.here first)
  | .function name params isStatic body =>
    exact bears.next (bears.within_new trivial) fun f =>
      bears.next (bears.within_bindName fits f) fun _ => .pure _
  | .classDef name bases body =>
    refine bears.next (bears.lift (keeps_basesOf place bases)) fun bases => ?_
    have made : Within S (allocate (.package { name, bases, members := [] })) := fun m start =>
      .of_ok rfl (bears.push start trivial) trivial
    exact bears.next made fun a => bears.next (safe.executeAll _ body nofun) fun flow =>
      bears.next (bears.within_bindName fits _) fun _ => .pure _
  | .importAll pkg => exact bears.next (bears.within_importAll pkg) fun _ => .pure _

lemma executeAll_step (place body) (fits : Fits free place (declaredInAll body)) :
    Within S (executeAll place (steps + 1) body) := by
  cases body with
  | nil => exact .pure _
  | cons s rest =>
    unfold executeAll
    refine bears.next (safe.execute place s (fits.mono fun _ => mem_append_left _)) fun flow => ?_
    split
    · exact safe.executeAll place rest (fits.mono fun _ => mem_append_right _)
    · exact .pure _

lemma repeatWhile_step (place test body) (fits : Fits free place (declaredInAll body)) :
    Within S (repeatWhile place (steps + 1) test body) := by
  unfold repeatWhile
  refine bears.next (safe.evaluate place test) fun v =>
    bears.next (bears.lift (keeps_truth v)) fun t => ?_
  split
  · refine bears.next (safe.executeAll place body fits) fun flow => ?_
    cases flow
    case next | continued => exact safe.repeatWhile place test body fits
    all_goals exact .pure _
  · exact .pure _

lemma repeatOver_step (place target) (n : Int) (count : Nat)
    (body) (fits : Fits free place (target :: declaredInAll body)) :
    Within S (repeatOver place (steps + 1) target n count body) := by
  cases count with
  | zero => exact .pure _
  | succ count =>
    have fits' : Fits free place (declaredInAll body) := fits.mono fun _ => mem_cons_of_mem _
    have counted : Fits free place [target] :=
      fits.mono fun _ mem => mem_singleton.1 mem ▸ mem_cons_self
    refine bears.next (bears.lift (keeps_wrap (.int n))) fun v =>
      bears.next (bears.within_bindName counted v) fun _ =>
        bears.next (safe.executeAll place body fits') fun flow => ?_
    cases flow
    case next | continued => exact safe.repeatOver place target (n + 1) count body fits
    all_goals exact .pure _

lemma handle_step (place) (cause : Failure) (hs : List Handler)
    (fits : Fits free place (declaredInHandlers hs)) :
    Within S (handle place (steps + 1) cause hs) := by
  match hs with
  | [] => exact .fail _
  | .mk exception body :: rest =>
    unfold handle
    refine bears.next (bears.within_handling cause (bears.next (safe.evaluate place exception)
      .exceptionOf)) fun e => ?_
    split
    · exact bears.within_handling cause
        (safe.executeAll place body (fits.mono fun _ => mem_append_left _))
    · exact safe.handle place cause rest (fits.mono fun _ => mem_append_right _)

end

lemma safe (bears : Bears B S free) (steps) : Safe S free steps := by
  induction steps with
  | zero =>
    constructor
    all_goals
      intros
      exact fun m start => .throw start
  | succ steps ih =>
    exact ⟨bears.evaluate_step ih, bears.evaluateAll_step ih, bears.connect_step ih,
      bears.call_step ih, bears.execute_step ih, bears.executeAll_step ih,
      bears.repeatWhile_step ih, bears.repeatOver_step ih, bears.handle_step ih⟩

end Bears
end BlockScript.Run
