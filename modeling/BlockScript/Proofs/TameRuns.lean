import BlockScript.Proofs.TameEvaluation

/-!
Running tame programs. No statement lets two variables share a cell: a declaration binds something
new, an assignment leaves a variable its cell, and a routine returns nothing that a variable outside
of it has.
-/

namespace BlockScript.Run

open Target Eval Machine Library

variable {m : Machine}

namespace Situated

variable {mine : List String} (sit : Situated place calls mine names m)
include sit

lemma has (x) : m.Has (place.slot x) := by
  unfold Place.slot
  split
  case _ inside => exact sit.package _ inside
  case _ outside here =>
    obtain ⟨f, found, -⟩ := sit.own _ outside here
    exact ⟨f, found⟩
  · trivial

lemma mono (fewer : ∀ x ∈ names', x ∈ names) : Situated place calls mine names' m where
  frame := sit.frame
  package := sit.package
  own a outside here := by
    obtain ⟨f, found, own⟩ := sit.own a outside here
    refine ⟨f, found, fun x mem => own x ?_⟩
    obtain mem | mem := mem_append.1 mem
    · exact mem_append_left _ (fewer x mem)
    · exact mem_append_right _ mem
  mine := sit.mine

lemma inside (found : m.store.get? a = some (.package p)) (names') :
    Situated { place with package := some a } calls [] names' m where
  frame := sit.frame
  package := by
    rintro _ ⟨⟩
    exact ⟨p, found⟩
  own := nofun
  mine := nofun

end Situated

lemma returns_none (other : ∀ v, flow ≠ .returned v) : Returns calls flow m :=
  fun v _ _ _ same => absurd same (other v)

lemma ends_next (ran : Ends (fun _ => Stays role calls m) x m1 fun _ _ => True) :
    Ends (fun _ => Stays role calls m) (x >>= fun _ => pure .next) m1 (Returns calls) :=
  .bind_from ran fun _ _ stays _ => .pure stays (returns_none nofun)

lemma ends_member_there (v name m) : Ends Machine.Follows (member v name) m fun _ _ =>
      ∀ a, v = .object a → a < m.store.size := by
  by_cases missing : ∃ a, v = .object a ∧ m.store.get? a = none
  · obtain ⟨a, rfl, missing⟩ := missing
    refine .load ?_
    rw [missing]
    exact .fail (.refl m)
  · refine (keeps_member v name m).weaken fun _ _ _ _ a same => ?_
    cases found : m.store.get? a with
    | none => exact absurd ⟨a, same, found⟩ missing
    | some o => exact get?_lt found

/-- What a tame statement does where it stands keeps the variables separated. -/
def IsSound (role : String → Role) (steps : Nat) (s : Stmt) : Prop :=
  ∀ (place : Run.Place) calls mine m, m.Separated role calls →
    s.isTame role mine place.package.isSome = true → Situated place calls mine s.bound m →
    Ends (Stays role calls) (execute place steps s) m (Returns calls)

section

variable (sound : Sound role steps)
include sound

lemma isSound_expr (value) : IsSound role (steps + 1) (.expr value) := by
  intro place calls mine m apart _ _
  refine .bind .trans (Q := fun _ _ => True) ?_ fun _ m1 first _ => first.done (returns_none nofun)
  exact .bind .trans (sound.evaluate place calls value m apart) fun v m1 first _ =>
    first.done trivial

lemma isSound_assign (target value) : IsSound role (steps + 1) (.assign target value) := by
  intro place calls mine m apart tame sit
  refine .bind_from (sound.evaluate place calls value m apart) fun v m1 stays yields => ?_
  have has := (sit.advance stays.advances).has target
  have bound : Stays role calls m (m1.bound (place.slot target) v) := by
    rw [Stmt.isTame, decide_eq_true_iff] at tame
    obtain ⟨free, makes⟩ | ⟨type, isType⟩ := tame
    · refine stays.bind_fresh (sit.has target) ?_ (yields.fresh makes)
      rw [Place.slot_name, free]
      trivial
    · have isType := yields.type isType
      refine stays.bind_fresh (sit.has target) ?_ (.of_isBare (isBare_of_isType isType))
      rw [Place.slot_name, type]
      exact isType
  exact ends_next (.of_ok (bindName_eq has v) bound trivial)

lemma ends_assigned {next : Value → Eval Flow} (value) (first : Stays role calls m m1)
    (last : ∀ w m2, Stays role calls m1 m2 → Leaves m2 old w →
      Ends (fun _ => Stays role calls m) (next w) m2 (Returns calls)) :
    Ends (fun _ => Stays role calls m) (do
      let v ← evaluate place steps value
      let w ← assign old v
      next w) m1 (Returns calls) := by
  have ran : Ends (fun _ => Stays role calls m) (evaluate place steps value) m1 fun _ m2 =>
      Stays role calls m1 m2 :=
    (sound.evaluate place calls value m1 first.separated).imp (fun _ => first.trans)
      fun _ _ stays _ => stays
  refine .bind_from ran fun v m2 stays second => ?_
  have assigned : Ends (fun _ => Stays role calls m) (assign old v) m2 fun w m3 =>
      Stays role calls m1 m3 ∧ Leaves m3 old w :=
    (ends_assign old v m2).imp (fun _ follows => stays.trans (.follow stays.separated follows))
      fun w m3 follows leaves => ⟨second.trans (.follow second.separated follows), leaves⟩
  exact .bind_from assigned fun w m3 _ result => last w m3 result.1 result.2

lemma isSound_update_name (target value) :
    IsSound role (steps + 1) (.update (.name target) value) := by
  intro place calls mine m apart tame sit
  have outside : place.package = none := by
    rw [Stmt.isTame, Bool.not_eq_true', Option.isSome_eq_false_iff] at tame
    exact Option.isNone_iff_eq_none.1 tame
  have own (a) (here : place.frame = some a) :
      ∃ f, m.store.get? a = some (.frame f) ∧ target ∈ f.own := by
    obtain ⟨f, found, own⟩ := sit.own a outside here
    exact ⟨f, found, own target mem_cons_self⟩
  refine .bind_from (ends_follows apart (ends_lookUp_own outside own)) ?_
  rintro old _ - ⟨rfl, known⟩
  refine ends_assigned sound value (.refl apart) fun w m2 stays leaves => ?_
  obtain known | ⟨-, -, rfl⟩ := known
  · have has := sit.has target
    have bound := Stays.update (.refl apart) stays has (.same _) known leaves
    exact ends_next (.of_ok (bindName_eq (stays.advances.has has) w) bound trivial)
  · -- routines of the library cannot be assigned to
    obtain ⟨-, a, same⟩ | ⟨⟨a, same, -⟩ | integer, -⟩ := leaves
    · cases same
    · cases same
    · cases integer

lemma isSound_update_attribute (owner value attr) :
    IsSound role (steps + 1) (.update (.attribute owner attr) value) := by
  intro place calls mine m apart _ _
  refine .bind_from (sound.evaluate place calls owner m apart) fun o m1 first _ => ?_
  by_cases isPackage : ∃ (a : Nat) (p : Package),
      o = .object a ∧ m1.store.get? a = some (.package p)
  · obtain ⟨a, p, rfl, found⟩ := isPackage
    refine .bind_from ((ends_member_package found attr).imp
      (fun _ follows => first.trans (.follow first.separated follows)) fun _ _ _ => id) ?_
    rintro old _ - ⟨rfl, b, descends, known⟩
    refine ends_assigned sound value first fun w m2 stays leaves => ?_
    have has : Machine.Has _ (.package a attr) := ⟨p, found⟩
    have bound := first.update stays has (.base attr descends) known leaves
    exact ends_next (.of_ok (setMember_package (stays.advances.has has) w) bound trivial)
  · refine .bind_from ((ends_member_there o attr m1).imp
      (fun _ follows => first.trans (.follow first.separated follows))
      fun _ _ follows there => (⟨follows, there⟩ : _ ∧ _)) fun old m₁' start there => ?_
    refine ends_assigned sound value start fun w m2 stays _ => ?_
    have other (a p same) : m2.store.get? a ≠ some (.package p) := fun found => by
      obtain ⟨p', found', -⟩ := (there.1.advances.trans stays.advances).package_old
        (there.2 a same) found
      exact isPackage ⟨a, p', same, found'⟩
    exact ends_next ((ends_setMember other fun _ _ cell _ => Storing.store cell).imp
      (fun _ follows => (start.trans stays).trans (.follow stays.separated follows))
      fun _ _ _ => id)

lemma isSound_update_subscript (owner index value) :
    IsSound role (steps + 1) (.update (.subscript owner index) value) := by
  intro place calls mine m apart _ _
  refine .bind .trans (sound.evaluate place calls owner m apart) fun o m1 first _ => ?_
  refine .bind .trans (sound.evaluate place calls index m1 first.separated) fun i m2 second _ => ?_
  refine .bind .trans (ends_getItem Stays.tracks sound.ends_call o i
    (.refl second.separated)) fun old m3 third _ => ?_
  refine ends_assigned sound value (.refl third.separated) fun w m4 stays _ => ?_
  exact ends_next ((ends_setItem Stays.tracks sound.ends_call o i w
    (.refl stays.separated)).imp (fun _ => stays.trans) fun _ _ _ => id)

lemma isSound_branch (test body orelse) :
    IsSound role (steps + 1) (.branch test body orelse) := by
  intro place calls mine m apart tame sit
  rw [Stmt.isTame, and_eq_true] at tame
  refine .bind .trans (sound.evaluate place calls test m apart) fun v m1 first _ => ?_
  refine .bind .trans (ends_follows first.separated (keeps_truth v m1)) fun t m2 second _ => ?_
  have sit := sit.advance (first.trans second).advances
  split
  · exact sound.executeAll place calls mine body m2 second.separated tame.1
      (sit.mono fun _ => mem_append_left _)
  · exact sound.executeAll place calls mine orelse m2 second.separated tame.2
      (sit.mono fun _ => mem_append_right _)

lemma isSound_forLoop (target range body) :
    IsSound role (steps + 1) (.forLoop target range body) := by
  intro place calls mine m apart tame sit
  rw [Stmt.isTame, and_eq_true, decide_eq_true_iff] at tame
  refine .bind .trans (sound.evaluate place calls range m apart) fun v m1 first _ => ?_
  split
  · refine .bind .trans (ends_follows first.separated (keeps_rangeBounds _ _ m1))
      fun bounds m2 second _ => ?_
    exact sound.repeatOver place calls mine target _ _ body m2 second.separated tame.1 tame.2
      (sit.advance (first.trans second).advances)
  · exact .fail (.refl first.separated)

lemma isSound_raiseError (exception : Option Expr) :
    IsSound role (steps + 1) (.raiseError exception) := by
  intro place calls mine m apart _ _
  cases exception with
  | none =>
    refine .read ?_
    split <;> exact .fail (.refl apart)
  | some e =>
    refine .bind .trans (sound.evaluate place calls e m apart) fun v m1 first _ => ?_
    unfold raising
    split <;> exact .fail (.refl first.separated)

lemma isSound_returnValue (value : Option Expr) :
    IsSound role (steps + 1) (.returnValue value) := by
  intro place calls mine m apart tame sit
  cases value with
  | none =>
    refine .pure (.refl apart) ?_
    rintro _ a params rest ⟨⟩ -
    exact .of_isBare trivial
  | some e =>
    rw [Stmt.isTame, or_eq_true] at tame
    have result : Ends (Stays role calls) (evaluate place steps e) m fun v =>
        Returns calls (.returned v) := by
      obtain makes | isOwn := tame
      · refine (sound.evaluate place calls e m apart).weaken fun v m1 _ yields => ?_
        rintro _ a params rest ⟨⟩ rfl
        obtain ⟨f, found⟩ := apart.frames _ mem_cons_self
        exact (yields.fresh makes).weaken (get?_lt found) fun _ counts =>
          counts_cons.2 (.inr counts)
      · unfold Expr.isOneOf at isOwn
        split at isOwn
        · exact sound.own place calls mine _ _ m apart sit (contains_iff_mem.1 isOwn)
        · cases isOwn
    exact .bind .trans result fun v m1 first returns => first.done returns

lemma isSound_guard (body) (hs : List Handler) : IsSound role (steps + 1) (.guard body hs) := by
  intro place calls mine m apart tame sit
  rw [Stmt.isTame, and_eq_true] at tame
  refine .tryCatch .trans (sound.executeAll place calls mine body m apart tame.1
    (sit.mono fun _ => mem_append_left _)) fun stop m1 first => ?_
  cases stop with
  | exhausted => exact .throw (.refl first.separated)
  | failed cause =>
    exact sound.handle place calls mine cause hs m1 first.separated tame.2
      ((sit.advance first.advances).mono fun _ => mem_append_right _)

omit sound in
lemma stays_bound_object (apart : m.Separated role calls)
    (sit : Situated place calls mine names m) (found : m.store.get? a = some o)
    (program : o.IsOfProgram) (suits : m.Suits (role x) x (.object a)) :
    Stays role calls m (m.bound (place.slot x) (.object a)) := by
  refine Stays.bind_solid apart (sit.has x) ?_ (fun _ _ _ => nofun) ?_ ?_
  · rw [Place.slot_name]
    exact suits
  · rintro _ ⟨⟩
    exact get?_lt found
  · rintro _ ⟨⟩ ⟨w, cell⟩
    rw [found] at cell
    cases cell
    exact program

omit sound in
lemma isSound_function (name parameters) (isStatic : Bool)
    (body) : IsSound role (steps + 1) (.function name parameters isStatic body) := by
  intro place calls mine m apart tame sit
  rw [Stmt.isTame, and_eq_true, and_eq_true, decide_eq_true_iff] at tame
  let f : Function := { name, parameters, isStatic, body, outer := place.frame }
  have made : Stays role calls m (m.push (.function f)) := by
    refine .push apart (slot?_push_eq (by simp) (by simp)) ?_
    rintro _ ⟨⟩
    exact ⟨tame.1.2, tame.2⟩
  have found : (m.push (.function f)).store.get? m.store.size = some (.function f) :=
    get?_push_size m _
  refine .bind .trans (.of_ok (new_eq _ m) made
    (Q := fun v m' => v = .object m.store.size ∧ m' = m.push (.function f)) ⟨rfl, rfl⟩) ?_
  rintro _ _ - ⟨rfl, rfl⟩
  have sit := sit.advance made.advances
  have bound := stays_bound_object (x := name) made.separated sit found trivial ?_
  · refine .bind .trans (.of_ok (bindName_eq (sit.has name) _) bound
      (Q := fun _ _ => True) trivial) ?_
    exact fun _ _ stays _ => stays.done (returns_none (by simp))
  · obtain free | routine := tame.1.1
    · rw [free]
      trivial
    · rw [routine]
      exact ⟨_, f, rfl, found⟩

omit sound in
lemma stays_opened (apart : m.Separated role calls) (name) (bases : List Address) :
    Stays role calls m (m.push (.package { name, bases, members := [] })) := by
  refine .push apart (slot?_push_eq nofun ?_) nofun
  rintro _ ⟨⟩
  rfl

lemma isSound_classDef (name bases body) :
    IsSound role (steps + 1) (.classDef name bases body) := by
  intro place calls mine m apart tame sit
  rw [Stmt.isTame, and_eq_true, decide_eq_true_iff] at tame
  refine .bind .trans (ends_follows apart (keeps_basesOf place bases m)) fun bases m1 first _ => ?_
  let p : Package := { name, bases, members := [] }
  have made := stays_opened first.separated name bases
  have found : (m1.push (.package p)).store.get? m1.store.size = some (.package p) :=
    get?_push_size m1 _
  refine .bind .trans (.of_ok rfl made
    (Q := fun a m' => a = m1.store.size ∧ m' = m1.push (.package p)) ⟨rfl, rfl⟩) ?_
  rintro _ _ - ⟨rfl, rfl⟩
  have sit := sit.advance (first.trans made).advances
  refine .bind .trans (sound.executeAll _ calls [] body _ made.separated tame.2
    (sit.inside found _)) fun flow m2 second returns => ?_
  obtain ⟨p', found', -⟩ := second.advances.package found
  have sit := sit.advance second.advances
  have bound := stays_bound_object (x := name) second.separated sit found' trivial ?_
  · refine .bind .trans (.of_ok (bindName_eq (sit.has name) _) bound
      (Q := fun _ m3 => Stays role calls m2 m3) bound) fun _ m3 stays bound => ?_
    exact stays.done (returns.stay bound)
  · obtain free | package := tame.1
    · rw [free]
      trivial
    · rw [package]
      exact ⟨_, p', rfl, found'⟩

omit sound in
lemma isSound_importAll (known : ∀ x v, exported? x = some v → role x = .library)
    (pkg) : IsSound role (steps + 1) (.importAll pkg) := by
  intro place calls mine m apart _ _
  refine .bind .trans (Q := fun _ _ => True) ?_ fun _ m1 first _ => first.done (returns_none nofun)
  unfold importAll
  split
  case _ names exports =>
    exact .of_ok rfl (.importAll known apart (exported?_of_mem exports)) trivial
  · exact .fail (.refl apart)

lemma isSound_step (known : ∀ x v, exported? x = some v → role x = .library) (s) :
    IsSound role (steps + 1) s := by
  match s with
  | .expr value => exact isSound_expr sound value
  | .assign target value => exact isSound_assign sound target value
  | .update (.name target) value => exact isSound_update_name sound target value
  | .update (.attribute owner attr) value => exact isSound_update_attribute sound owner value attr
  | .update (.subscript owner index) value => exact isSound_update_subscript sound owner index value
  | .pass | .breakLoop | .continueLoop =>
    exact fun _ _ _ _ apart _ _ => .pure (.refl apart) (returns_none nofun)
  | .branch test body orelse => exact isSound_branch sound test body orelse
  | .whileLoop test body => exact fun _ _ _ => sound.repeatWhile _ _ _ test body
  | .forLoop target range body => exact isSound_forLoop sound target range body
  | .raiseError exception => exact isSound_raiseError sound exception
  | .returnValue value => exact isSound_returnValue sound value
  | .guard body hs => exact isSound_guard sound body hs
  | .function name params isStatic body => exact isSound_function name params isStatic body
  | .classDef name bases body => exact isSound_classDef sound name bases body
  | .importAll pkg => exact isSound_importAll known pkg

omit sound in
lemma ends_counted (apart : m.Separated role calls) (free : role target = .free)
    (sit : Situated place calls mine names m) (n : Int) :
    Ends (Stays role calls) (do bindName place target (← wrap (.int n))) m fun _ _ => True := by
  have made := ends_gives apart (Nat.le_refl _) (gives_wrap (v := .int n) trivial)
  refine .bind_from made fun v m1 first fresh => ?_
  have has := (sit.advance first.advances).has target
  have bound : Stays role calls m (m1.bound (place.slot target) v) := by
    refine first.bind_fresh (sit.has target) ?_ fresh
    rw [Place.slot_name, free]
    trivial
  exact .of_ok (bindName_eq has v) bound trivial

variable (place : Run.Place) (calls : Calls) (mine : List String)

lemma executeAll_step (body m) (apart : m.Separated role calls)
    (tame : areTame role mine place.package.isSome body = true)
    (sit : Situated place calls mine (boundInAll body) m) :
    Ends (Stays role calls) (executeAll place (steps + 1) body) m (Returns calls) := by
  cases body with
  | nil => exact .pure (.refl apart) (returns_none nofun)
  | cons s rest =>
    rw [areTame, and_eq_true] at tame
    refine .bind .trans (sound.execute place calls mine s m apart tame.1
      (sit.mono fun _ => mem_append_left _)) fun flow m1 first returns => ?_
    split
    · exact sound.executeAll place calls mine rest m1 first.separated tame.2
        ((sit.advance first.advances).mono fun _ => mem_append_right _)
    · exact first.done returns

lemma repeatWhile_step (test body m) (apart : m.Separated role calls)
    (tame : areTame role mine place.package.isSome body = true)
    (sit : Situated place calls mine (boundInAll body) m) :
    Ends (Stays role calls) (repeatWhile place (steps + 1) test body) m (Returns calls) := by
  refine .bind .trans (sound.evaluate place calls test m apart) fun v m1 first _ => ?_
  refine .bind .trans (ends_follows first.separated (keeps_truth v m1)) fun t m2 second _ => ?_
  have sit := sit.advance (first.trans second).advances
  split
  · refine .bind .trans (sound.executeAll place calls mine body m2 second.separated tame
      sit) fun flow m3 third returns => ?_
    have again := sound.repeatWhile place calls mine test body m3 third.separated tame
      (sit.advance third.advances)
    cases flow with
    | next | continued => exact again
    | broke => exact third.done (returns_none nofun)
    | returned v => exact third.done returns
  · exact second.done (returns_none nofun)

lemma repeatOver_step (target) (n : Int) (count : Nat) (body m)
    (apart : m.Separated role calls) (free : role target = .free)
    (tame : areTame role mine place.package.isSome body = true)
    (sit : Situated place calls mine (target :: boundInAll body) m) :
    Ends (Stays role calls) (repeatOver place (steps + 1) target n count body) m
      (Returns calls) := by
  cases count with
  | zero => exact .pure (.refl apart) (returns_none nofun)
  | succ count =>
    unfold repeatOver
    -- the two parts of the first step belong together
    rw [← bind_assoc]
    refine .bind .trans (ends_counted apart free sit n) fun _ m1 first _ => ?_
    have sit := sit.advance first.advances
    refine .bind .trans (sound.executeAll place calls mine body m1 first.separated tame
      (sit.mono fun _ => mem_cons_of_mem _)) fun flow m2 second returns => ?_
    have again := sound.repeatOver place calls mine target (n + 1) count body m2
      second.separated free tame (sit.advance second.advances)
    cases flow with
    | next | continued => exact again
    | broke => exact second.done (returns_none nofun)
    | returned v => exact second.done returns

lemma handle_step (cause : Failure) (hs : List Handler) (m) (apart : m.Separated role calls)
    (tame : areTameIn role mine place.package.isSome hs = true)
    (sit : Situated place calls mine (boundInHandlers hs) m) :
    Ends (Stays role calls) (handle place (steps + 1) cause hs) m (Returns calls) := by
  match hs with
  | [] => exact .fail (.refl apart)
  | .mk exception body :: rest =>
    rw [areTameIn, and_eq_true] at tame
    refine .bind .trans (ends_handling Stays.tracks .note (fun _ _ _ _ => id) (.refl apart)
      (fun m' stays => .bind .trans (sound.evaluate place calls exception m' stays.separated)
        (P := fun _ _ => True) fun v m1 first _ => ?_) cause) fun e m1 first _ => ?_
    · unfold exceptionOf
      split
      · exact first.done trivial
      · exact .fail (.refl first.separated)
    · have sit := sit.advance first.advances
      split
      · refine ends_handling Stays.tracks .note (fun _ _ _ stays returns => returns.stay stays)
          (.refl first.separated) (fun m' stays => ?_) cause
        exact sound.executeAll place calls mine body m' stays.separated tame.1
          ((sit.advance stays.advances).mono fun _ => mem_append_left _)
      · exact sound.handle place calls mine cause rest m1 first.separated tame.2
          (sit.mono fun _ => mem_append_right _)

end

/-- Runs of any number of steps keep the variables of a tame program separated. -/
lemma sound_steps (known : ∀ x v, exported? x = some v → role x = .library)
    (steps) : Sound role steps := by
  induction steps with
  | zero =>
    constructor
    all_goals
      intros
      exact .throw (.refl (by assumption))
  | succ steps ih =>
    exact ⟨evaluate_step known ih, evaluateAll_step ih, connect_step ih, own_step ih, call_step ih,
      fun _ _ _ s => isSound_step ih known s _ _ _, executeAll_step ih, repeatWhile_step ih,
      repeatOver_step ih, handle_step ih⟩

end BlockScript.Run
