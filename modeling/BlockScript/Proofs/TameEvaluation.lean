import BlockScript.Proofs.Separation

/-!
Evaluating expressions of tame programs. What an expression makes no variable has, whatever is
called for it.
-/

namespace BlockScript.Run

open Target Eval Machine Library

structure Yields (role : String → Role) (calls : Calls) (n : Nat) (e : Expr) (v : Value)
    (m : Machine) : Prop where
  suits : ∀ id, e = .name id → m.Suits (role id) id v
  routine : e.isRoutine role = true →
    ∃ (a : Nat) (f : Function), v = .object a ∧ m.store.get? a = some (.function f)
  known : ∀ w, e.known? role = some w → v = w
  type : e.isType role = true → v.IsType
  fresh : e.makes role = true → Fresh calls n v m

def Produces (calls : Calls) (n : Nat) (v : Value) (arguments : List Value) (m : Machine) : Prop :=
  (∃ (a : Nat) (f : Function), v = .object a ∧ m.store.get? a = some (.function f)) ∨
    (∀ a, v ≠ .object a) ∧ ∀ r, v = .routine r → handsOn r = false ∨
      (r = .wrap ∨ r = .nvl ∨ r = .replace) ∧ ∀ x ∈ arguments, Fresh calls n x m

structure Answers (calls : Calls) (n : Nat) (v : Value) (arguments : List Value) (m : Machine)
    (w : Value) (m' : Machine) : Prop where
  fresh : Produces calls n v arguments m → Fresh calls n w m'
  itself : arguments = [] → (∀ r, v ≠ .routine r) → w = v ∨ Fresh calls n w m'
  type : v = .routine .tableOf → w.IsType

def Returns (calls : Calls) (flow : Flow) (m : Machine) : Prop :=
  ∀ (v : Value) (a : Nat) parameters rest, flow = .returned v →
    calls = (a, parameters) :: rest → Fresh rest (a + 1) v m

/-- A place belongs to the innermost call, and what is bound there is its own. -/
structure Situated (place : Run.Place) (calls : Calls) (mine names : List String)
    (m : Machine) : Prop where
  frame : place.frame = calls.head?.map Prod.fst
  package : ∀ a : Nat, place.package = some a → ∃ p, m.store.get? a = some (.package p)
  own : ∀ a : Nat, place.package = none → place.frame = some a →
    ∃ f : Frame, m.store.get? a = some (.frame f) ∧ ∀ x ∈ names ++ mine, x ∈ f.own
  mine : ∀ x ∈ mine, place.package = none ∧
    ∃ (a : Nat) (parameters : List String) (rest : Calls),
      calls = (a, parameters) :: rest ∧ x ∉ parameters

structure Sound (role : String → Role) (steps : Nat) : Prop where
  evaluate : ∀ place calls e m, m.Separated role calls →
    Ends (Stays role calls) (evaluate place steps e) m (Yields role calls m.store.size e)
  evaluateAll : ∀ place calls es m, m.Separated role calls →
    Ends (Stays role calls) (evaluateAll place steps es) m fun vs m' =>
      makesAll role es = true → ∀ v ∈ vs, Fresh calls m.store.size v m'
  connect : ∀ place calls connective es m, m.Separated role calls →
    Ends (Stays role calls) (connect place steps connective es) m fun v m' =>
      makesAll role es = true → Fresh calls m.store.size v m'
  /-- A routine can return its own variables as they are. -/
  own : ∀ place calls mine names x m, m.Separated role calls →
    Situated place calls mine names m → x ∈ mine →
    Ends (Stays role calls) (Run.evaluate place steps (.call (.name x) [])) m fun v =>
      Returns calls (.returned v)
  call : ∀ calls n v arguments m, n ≤ m.store.size → m.Separated role calls →
    Ends (Stays role calls) (call steps v arguments) m (Answers calls n v arguments m)
  execute : ∀ place calls mine s m, m.Separated role calls →
    s.isTame role mine place.package.isSome = true →
    Situated place calls mine s.bound m →
    Ends (Stays role calls) (execute place steps s) m (Returns calls)
  executeAll : ∀ place calls mine body m, m.Separated role calls →
    areTame role mine place.package.isSome body = true →
    Situated place calls mine (boundInAll body) m →
    Ends (Stays role calls) (executeAll place steps body) m (Returns calls)
  repeatWhile : ∀ place calls mine test body m, m.Separated role calls →
    areTame role mine place.package.isSome body = true →
    Situated place calls mine (boundInAll body) m →
    Ends (Stays role calls) (repeatWhile place steps test body) m (Returns calls)
  repeatOver : ∀ place calls mine target n count body m, m.Separated role calls →
    role target = .free → areTame role mine place.package.isSome body = true →
    Situated place calls mine (target :: boundInAll body) m →
    Ends (Stays role calls) (repeatOver place steps target n count body) m (Returns calls)
  handle : ∀ place calls mine cause handlers m, m.Separated role calls →
    areTameIn role mine place.package.isSome handlers = true →
    Situated place calls mine (boundInHandlers handlers) m →
    Ends (Stays role calls) (handle place steps cause handlers) m (Returns calls)

variable {role : String → Role} {m : Machine}

lemma Sound.ends_call (sound : Sound role steps) (v args m) (start : Stays role calls m m) :
    Ends (Stays role calls) (Run.call steps v args) m fun _ _ => True :=
  (sound.call calls 0 v args m (Nat.zero_le _) start.separated).weaken fun _ _ _ _ => trivial

lemma Situated.advance {mine : List String} (situated : Situated place calls mine names m)
    (advances : m.Advances m') :
    Situated place calls mine names m' where
  frame := situated.frame
  package a here := by
    obtain ⟨p, found⟩ := situated.package a here
    obtain ⟨p', found', -⟩ := advances.package found
    exact ⟨p', found'⟩
  own a outside here := by
    obtain ⟨f, found, own⟩ := situated.own a outside here
    obtain ⟨f', found', same, -⟩ := advances.frame found
    exact ⟨f', found', same ▸ own⟩
  mine := situated.mine

lemma Yields.stay (yields : Yields role calls n e v m) (stays : Stays role calls m m') :
    Yields role calls n e v m' where
  suits id same := (yields.suits id same).advance stays.advances
  routine isRoutine := by
    obtain ⟨a, f, same, found⟩ := yields.routine isRoutine
    exact ⟨a, f, same, stays.advances.function found⟩
  known := yields.known
  type := yields.type
  fresh makes := (yields.fresh makes).stay stays

lemma ends_follows (apart : m.Separated role calls) (ends : Ends Machine.Follows x m Q) :
    Ends (Stays role calls) x m Q :=
  Stays.tracks.lift (.refl apart) ends

lemma ends_gives (apart : m.Separated role calls) (small : n ≤ m.store.size)
    (gives : Gives Machine.Follows x) : Ends (Stays role calls) x m (Fresh calls n) :=
  (gives m _ (Nat.le_refl _)).imp (fun _ follows => .follow apart follows)
    fun _ _ follows new => (Fresh.of_new apart follows.slot? new).weaken small fun _ => id

variable (known : ∀ x v, exported? x = some v → role x = .library)

include known in
lemma suits_of_knows {id : String} (apart : m.Separated role calls) (knows : m.Knows id v) :
    m.Suits (role id) id v := by
  obtain ⟨s, rfl, bound⟩ | ⟨rfl, rfl⟩ := knows
  · exact apart.suits s v bound
  · have exported : exported? "locals" = some (.routine .locals) := rfl
    rw [known _ _ exported]
    exact exported

lemma isBare_of_isType (type : v.IsType) : IsBare v := by
  cases v <;> trivial

lemma yields_of_suits {id : String} (n) (suits : m.Suits (role id) id v) :
    Yields role calls n (.name id) v m := by
  have known (w) (same : Expr.known? role (.name id) = some w) : v = w := by
    rw [Expr.known?] at same
    split at same
    case _ library =>
      rw [library] at suits
      exact Option.some.inj (suits.symm.trans same)
    · cases same
  have type (isType : Expr.isType role (.name id) = true) : v.IsType := by
    rw [Expr.isType] at isType
    split at isType
    case _ c same =>
      rw [known _ same]
      trivial
    · rw [of_decide_eq_true isType] at suits
      exact suits
  refine ⟨?_, ?_, known, type, ?_⟩
  · rintro _ ⟨⟩
    exact suits
  · intro isRoutine
    rw [of_decide_eq_true isRoutine] at suits
    exact suits
  · intro makes
    exact .of_isBare (isBare_of_isType (type makes))

variable {id : String}

include known in
lemma evaluate_name (apart : m.Separated role calls) :
    Ends (Stays role calls) (evaluate place (steps + 1) (.name id)) m
      (Yields role calls n (.name id)) := by
  refine (ends_follows apart (ends_lookUp place id m)).imp (fun _ stays => stays) ?_
  rintro v _ - ⟨rfl, knows⟩
  exact yields_of_suits n (suits_of_knows known apart knows)

lemma ends_member_of_name (apart : m.Separated role calls) (suits : m.Suits (role id) id v) :
    Ends (Stays role calls) (member v attr) m
      (Yields role calls n (.attribute (.name id) attr)) := by
  have general : Ends (Stays role calls) (member v attr) m fun _ _ => True :=
    ends_follows apart (keeps_member v attr m)
  have other (noPackage : role id ≠ .package) {w} {m'}
      (same : ∀ u, Expr.known? role (.attribute (.name id) attr) = some u → w = u) :
      Yields role calls n (.attribute (.name id) attr) w m' := by
    refine ⟨nofun, fun isRoutine => ?_, same, fun isType => ?_, fun makes => ?_⟩
    · exact absurd (of_decide_eq_true isRoutine).1 noPackage
    · exact absurd (of_decide_eq_true isType).1 noPackage
    · exact absurd (of_decide_eq_true makes).1 noPackage
  have unknown (noLibrary : role id ≠ .library) (u) :
      Expr.known? role (.attribute (.name id) attr) ≠ some u := by
    rw [Expr.known?, if_neg noLibrary]
    nofun
  by_cases isPackage : role id = .package
  · rw [isPackage] at suits
    obtain ⟨a, p, rfl, found⟩ := suits
    refine (ends_follows apart (ends_member_package found attr)).weaken ?_
    rintro w _ - ⟨rfl, b, -, bound⟩
    have suits : Machine.Suits _ (role attr) attr w := apart.suits _ w bound
    have type (isType : Expr.isType role (.attribute (.name id) attr) = true) : w.IsType := by
      rw [(of_decide_eq_true isType).2] at suits
      exact suits
    refine ⟨nofun, fun isRoutine => ?_, fun u same => ?_, type, fun makes => ?_⟩
    · rw [(of_decide_eq_true isRoutine).2] at suits
      exact suits
    · exact absurd same (unknown (by rw [isPackage]; nofun) u)
    · exact .of_isBare (isBare_of_isType (type makes))
  · by_cases isLibrary : role id = .library
    · rw [isLibrary] at suits
      have exported : exported? id = some v := suits
      cases fixed : Expr.known? role (.attribute (.name id) attr) with
      | none => exact general.weaken fun _ _ _ _ => other isPackage (by rw [fixed]; nofun)
      | some u =>
        have result : member v attr m = .ok u m := by
          rw [Expr.known?, if_pos isLibrary, exported] at fixed
          split at fixed
          case _ c same =>
            cases same
            exact bind_ok (classMember?_fixed fixed m)
          · cases fixed
        refine .of_ok result (.refl apart) (other isPackage fun w same => ?_)
        rw [fixed] at same
        exact Option.some.inj same
    · exact general.weaken fun _ _ _ _ =>
        other isPackage fun u same => absurd same (unknown isLibrary u)

lemma produces_of_makes
    (makes : (Expr.call func args).makes role = true) (yields : Yields role calls n func f m)
    (fresh : makesAll role args = true → ∀ v ∈ given, Fresh calls n v m) :
    Produces calls n f given m := by
  rw [Expr.makes, or_eq_true, or_eq_true] at makes
  obtain (isRoutine | isType) | makes := makes
  · exact .inl (yields.routine isRoutine)
  · have type := yields.type isType
    refine .inr ⟨?_, ?_⟩
    · rintro a rfl
      exact type.elim
    · rintro r rfl
      exact type.elim
  · split at makes
    case _ r same =>
      refine .inr ⟨?_, ?_⟩
      · rintro a rfl
        cases yields.known _ same
      · rintro r' rfl
        cases yields.known _ same
        cases hands : handsOn r with
        | false => exact .inl rfl
        | true => grind
    case _ c same =>
      refine .inr ⟨?_, ?_⟩
      · rintro a rfl
        cases yields.known _ same
      · rintro r rfl
        cases yields.known _ same
    · cases makes

def IsOperation : Expr → Prop
  | .name _ | .attribute .. | .call .. => False
  | _ => True

lemma yields_of_fresh (op : IsOperation e)
    (fresh : e.makes role = true → Fresh calls n v m) : Yields role calls n e v m := by
  cases e <;> first | exact op.elim | exact ⟨nofun, nofun, nofun, nofun, fresh⟩

variable (sound : Sound role steps)
include sound

section

variable (apart : m.Separated role calls)
include apart

lemma evaluate_attribute (value) :
    Ends (Stays role calls) (evaluate place (steps + 1) (.attribute value attr)) m
      (Yields role calls m.store.size (.attribute value attr)) := by
  refine .bind .trans (sound.evaluate place calls value m apart) fun v m1 first yields => ?_
  cases value with
  | name id => exact ends_member_of_name first.separated (yields.suits id rfl)
  | _ =>
    refine (ends_follows first.separated (keeps_member v attr m1)).weaken ?_
    exact fun _ _ _ _ => ⟨nofun, nofun, nofun, nofun, nofun⟩

lemma evaluate_call (func args) :
    Ends (Stays role calls) (evaluate place (steps + 1) (.call func args)) m
      (Yields role calls m.store.size (.call func args)) := by
  refine .bind .trans (sound.evaluate place calls func m apart) fun f m1 first yields => ?_
  refine .bind .trans (sound.evaluateAll place calls args m1 first.separated)
    fun given m2 second made => ?_
  have larger := (first.trans second).advances.size_le
  have makes (makes : (Expr.call func args).makes role = true) :
      Produces calls m.store.size f given m2 := by
    refine produces_of_makes makes (yields.stay second) fun all v mem => ?_
    exact (made all v mem).weaken first.advances.size_le fun _ => id
  have type (isType : (Expr.call func args).isType role = true) : f = .routine .tableOf := by
    rw [Expr.isType] at isType
    split at isType
    case _ same => exact yields.known _ same
    · cases isType
  split
  · refine (ends_gives second.separated larger (.bind (keeps_localNames place) fun names =>
      gives_new id)).weaken fun w m3 _ fresh => ?_
    exact ⟨nofun, nofun, nofun, fun isType => absurd (type isType) nofun, fun _ => fresh⟩
  · refine (sound.call calls _ f given m2 larger second.separated).weaken fun w m3 _ answers => ?_
    exact ⟨nofun, nofun, nofun, fun isType => answers.type (type isType),
      fun isMade => answers.fresh (makes isMade)⟩

lemma evaluate_operator (operation : IsOperation e) {op : Value → Value → Eval Value}
    (gives : ∀ a b, Gives Machine.Follows (op a b)) (left right) :
    Ends (Stays role calls) (do
      let a ← evaluate place steps left
      op a (← evaluate place steps right)) m (Yields role calls m.store.size e) := by
  refine .bind .trans (sound.evaluate place calls left m apart) fun a m1 first _ => ?_
  refine .bind .trans (sound.evaluate place calls right m1 first.separated) fun b m2 second _ => ?_
  have larger := (first.trans second).advances.size_le
  exact (ends_gives second.separated larger (gives a b)).weaken
    fun _ _ _ fresh => yields_of_fresh operation fun _ => fresh

lemma evaluate_compareBoth (left middle right op op') :
    Ends (Stays role calls) (evaluate place (steps + 1) (.compareBoth left op middle op' right)) m
      (Yields role calls m.store.size (.compareBoth left op middle op' right)) := by
  refine .bind .trans (sound.evaluate place calls left m apart) fun a m1 first _ => ?_
  refine .bind .trans (sound.evaluate place calls middle m1 first.separated) fun b m2 second _ => ?_
  have start := first.trans second
  refine .bind .trans (ends_gives start.separated start.advances.size_le (gives_compare op a b))
    fun result m3 third fresh => ?_
  refine .bind .trans (ends_follows third.separated (keeps_truth result m3)) fun t m4 fourth _ => ?_
  split
  · refine .bind .trans (sound.evaluate place calls right m4 fourth.separated)
      fun c m5 fifth _ => ?_
    have larger := (start.trans (third.trans (fourth.trans fifth))).advances.size_le
    exact (ends_gives fifth.separated larger (gives_compare op' b c)).weaken
      fun _ _ _ fresh => yields_of_fresh trivial fun _ => fresh
  · exact fourth.done (yields_of_fresh trivial fun _ => fresh.stay fourth)

lemma evaluate_subscript (value index) :
    Ends (Stays role calls) (evaluate place (steps + 1) (.subscript value index)) m
      (Yields role calls m.store.size (.subscript value index)) := by
  refine .bind .trans (sound.evaluate place calls value m apart) fun v m1 first _ => ?_
  refine .bind .trans (sound.evaluate place calls index m1 first.separated) fun i m2 second _ => ?_
  exact (ends_getItem Stays.tracks sound.ends_call v i (.refl second.separated)).weaken
    fun _ _ _ _ => yields_of_fresh trivial nofun

end

include known in
lemma evaluate_step (place) (calls : Calls) (e m) (apart : m.Separated role calls) :
    Ends (Stays role calls) (evaluate place (steps + 1) e) m
      (Yields role calls m.store.size e) := by
  match e with
  | .name id => exact evaluate_name known apart
  | .attribute value attr => exact evaluate_attribute sound apart value
  | .call func args => exact evaluate_call sound apart func args
  | .constant value =>
    refine .pure (.refl apart) (yields_of_fresh trivial fun _ => .of_isBare ?_)
    cases value <;> trivial
  | .binary left op right =>
    exact evaluate_operator sound apart (by trivial) (gives_calculate op) left right
  | .compare left op right =>
    exact evaluate_operator sound apart (by trivial) (gives_compare op) left right
  | .compareBoth left op middle op' right =>
    exact evaluate_compareBoth sound apart left middle right op op'
  | .connect conn operands =>
    exact (sound.connect place calls conn operands m apart).weaken
      fun _ _ _ fresh => yields_of_fresh trivial fresh
  | .negative operand =>
    refine .bind .trans (sound.evaluate place calls operand m apart) fun v m1 first _ => ?_
    exact (ends_gives first.separated first.advances.size_le (gives_neg v)).weaken
      fun _ _ _ fresh => yields_of_fresh trivial fun _ => fresh
  | .list items =>
    refine .bind .trans (sound.evaluateAll place calls items m apart) fun vs m1 first _ => ?_
    exact (ends_gives first.separated first.advances.size_le (gives_new id)).weaken
      fun _ _ _ fresh => yields_of_fresh trivial fun _ => fresh
  | .subscript value index => exact evaluate_subscript sound apart value index

lemma evaluateAll_step (place) (calls : Calls) (es m) (apart : m.Separated role calls) :
    Ends (Stays role calls) (evaluateAll place (steps + 1) es) m fun vs m' =>
      makesAll role es = true → ∀ v ∈ vs, Fresh calls m.store.size v m' := by
  cases es with
  | nil => exact .pure (.refl apart) nofun
  | cons e rest =>
    unfold evaluateAll
    refine .bind .trans (sound.evaluate place calls e m apart) fun v m1 first yields => ?_
    refine .bind .trans (sound.evaluateAll place calls rest m1 first.separated)
      fun vs m2 second made => ?_
    refine second.done fun makes w mem => ?_
    rw [makesAll, and_eq_true] at makes
    obtain rfl | mem := mem_cons.1 mem
    · exact (yields.fresh makes.1).stay second
    · exact (made makes.2 w mem).weaken first.advances.size_le fun _ => id

lemma connect_step (place) (calls : Calls) (conn : Connective) (es m) (apart : m.Separated role calls) :
    Ends (Stays role calls) (connect place (steps + 1) conn es) m fun v m' =>
      makesAll role es = true → Fresh calls m.store.size v m' := by
  match es with
  | [] => exact .pure (.refl apart) fun _ => .of_isBare trivial
  | [e] =>
    refine (sound.evaluate place calls e m apart).weaken fun v m1 _ yields makes => ?_
    rw [makesAll, and_eq_true] at makes
    exact yields.fresh makes.1
  | e :: e' :: rest =>
    refine .bind .trans (sound.evaluate place calls e m apart) fun v m1 first yields => ?_
    refine .bind .trans (ends_follows first.separated (keeps_truth v m1)) fun t m2 second _ => ?_
    split
    · refine second.done fun makes => ?_
      rw [makesAll, and_eq_true] at makes
      exact (yields.fresh makes.1).stay second
    · refine (sound.connect place calls conn (e' :: rest) m2 second.separated).weaken
        fun w m3 _ made makes => ?_
      rw [makesAll, and_eq_true] at makes
      exact (made makes.2).weaken (first.trans second).advances.size_le fun _ => id

lemma callValue_answers (small : n ≤ m.store.size) (apart : m.Separated role calls)
    (other : ∀ (a : Nat) (f), v = .object a → m.store.get? a ≠ some (.function f))
    (args) :
    Ends (Stays role calls) (callValue (Run.call steps) v args) m (Answers calls n v args m) := by
  have general := ends_callValue Stays.tracks sound.ends_call v args (.refl apart)
  have fresh (produces : Produces calls n v args m) : Ends (Stays role calls)
      (callValue (Run.call steps) v args) m (Fresh calls n) := by
    obtain ⟨a, f, same, found⟩ | ⟨noObject, own⟩ := produces
    · exact absurd found (other a f same)
    · by_cases given : ∃ r, v = .routine r ∧ handsOn r = true
      · obtain ⟨r, rfl, hands⟩ := given
        obtain none | ⟨given, made⟩ := own r rfl
        · exact absurd (hands.symm.trans none) nofun
        · refine (ends_apply_given given (Nat.le_refl _) args).imp
            (fun _ => .follow apart) fun w m' follows result => ?_
          obtain mem | new := result
          · exact (made w mem).stay (.follow apart follows)
          · exact (Fresh.of_new apart follows.slot? new).weaken small fun _ => id
      · refine ends_gives apart small (gives_callValue noObject ?_ args)
        exact fun r same => Bool.eq_false_iff.2 fun hands => given ⟨r, same, hands⟩
  have itself (conditions : args = [] ∧ ∀ r, v ≠ .routine r) : Ends (Stays role calls)
      (callValue (Run.call steps) v args) m fun w m' => w = v ∨ Fresh calls n w m' := by
    obtain ⟨rfl, noRoutine⟩ := conditions
    by_cases isObject : ∃ a, v = .object a
    · obtain ⟨a, rfl⟩ := isObject
      refine (ends_callValue_object a (Nat.le_refl _)).imp (fun _ => .follow apart)
        fun w m' follows result => result.imp id fun new => ?_
      exact (Fresh.of_new apart follows.slot? new).weaken small fun _ => id
    · refine (ends_gives apart small (gives_callValue (fun a same => ?_) ?_ [])).weaken
        fun _ _ _ fresh => .inr fresh
      · exact isObject ⟨a, same⟩
      · exact fun r same => absurd same (noRoutine r)
  have type (table : v = .routine .tableOf) : Ends (Stays role calls)
      (callValue (Run.call steps) v args) m fun w _ => w.IsType := by
    subst table
    match args with
    | [element] => exact .pure (.refl apart) trivial
    | [] | _ :: _ :: _ => exact .fail (.refl apart)
  refine ((general.when fresh).and ((general.when itself).and (general.when type))).weaken
    fun w m' _ answers => ?_
  exact ⟨answers.1, fun none noRoutine => answers.2.1 ⟨none, noRoutine⟩, answers.2.2⟩

omit sound in
lemma Returns.stay (returns : Returns calls flow m) (stays : Stays role calls m m') :
    Returns calls flow m' := by
  rintro v a params rest isReturn rfl
  exact (returns v a params rest isReturn rfl).stay stays.leave

omit sound in
lemma situated_entered (f args used) :
    Situated { frame := some m.store.size, used := used } ((m.store.size, f.parameters) :: calls)
      (ownVariables f.parameters f.body) (boundInAll f.body) (m.entered f args) where
  frame := rfl
  package := nofun
  own := by
    rintro a - ⟨⟩
    refine ⟨_, get?_push_size m _, fun x mem => mem_append_right _ ?_⟩
    obtain mem | mem := mem_append.1 mem
    · exact mem
    · exact (mem_filter.1 mem).1
  mine x mem := by
    have other := (mem_filter.1 mem).2
    grind

lemma call_function (small : n ≤ m.store.size)
    (apart : m.Separated role calls) (found : m.store.get? a = some (.function f))
    (args) :
    Ends (Stays role calls) (call (steps + 1) (.object a) args) m (Fresh calls n) := by
  refine .load ?_
  rw [found]
  dsimp only
  by_cases same : args.length = f.parameters.length
  · have tame := apart.tame a f found
    have entered : (m.entered f args).Separated role ((m.store.size, f.parameters) :: calls) :=
      apart.enter tame
    have body := ends_deeper Stays.tracks .note (fun _ _ _ stays returns =>
      returns.stay stays) (.refl entered) fun m' stays =>
        sound.executeAll _ _ _ f.body m' stays.separated tame.2
          ((situated_entered f args (usedInStmts f.body)).advance stays.advances)
    refine .bind_from (.of_ok (enter_eq same m) (apart.stays_of_entered (.refl entered))
      (Q := fun a m' => a = m.store.size ∧ m' = m.entered f args) ⟨rfl, rfl⟩) ?_
    rintro _ _ - ⟨rfl, rfl⟩
    refine .bind_from (body.imp (fun _ => apart.stays_of_entered) fun _ _ _ => id)
      fun flow m1 stays returns => ?_
    cases flow with
    | returned v => refine .pure stays ((returns v _ _ _ rfl rfl).weaken (by omega) fun _ => id)
    | _ => exact .pure stays (.of_isBare trivial)
  · have differ : (args.length != f.parameters.length) = true := bne_iff_ne.2 same
    unfold enter
    rw [if_pos differ]
    exact .fail_bind (.refl apart)

lemma call_step (calls : Calls) (n v args m)
    (small : n ≤ m.store.size) (apart : m.Separated role calls) :
    Ends (Stays role calls) (call (steps + 1) v args) m (Answers calls n v args m) := by
  by_cases isFunction : ∃ (a : Nat) (f : Function), v = .object a ∧
      m.store.get? a = some (.function f)
  · obtain ⟨a, f, rfl, found⟩ := isFunction
    exact (call_function sound small apart found args).weaken
      fun _ _ _ fresh => ⟨fun _ => fresh, fun _ _ => .inr fresh, nofun⟩
  · have other (a : Nat) (f) (same : v = .object a) :
        m.store.get? a ≠ some (.function f) := fun found => isFunction ⟨a, f, same, found⟩
    have answers := callValue_answers sound small apart other args
    match v with
    | .object a =>
      refine .load ?_
      split
      case _ f found => exact absurd found (other a f rfl)
      · exact answers
    | .none | .bool _ | .int _ | .float _ | .text _ | .null | .routine _ | .library _ | .plain _
    | .method .. | .tables _ | .range .. | .connection _ => exact answers

omit sound in
lemma fresh_of_own (apart : m.Separated role ((a, parameters) :: calls))
    (other : y ∉ parameters) (bound : m.slot? (.frame a y) = some v) : Fresh calls (a + 1) v m := by
  have counts : (Slot.frame a y).Counts ((a, parameters) :: calls) :=
    ⟨parameters, mem_cons_self, other⟩
  obtain ⟨noRoutine, young⟩ := apart.young a y v counts bound
  refine ⟨⟨noRoutine, ?_⟩, ?_⟩
  · rintro c rfl
    exact ⟨apart.there _ c counts bound, young c rfl⟩
  · rintro t c counts' rfl cell bound'
    have more : t.Counts ((a, parameters) :: calls) := counts_cons.2 (.inr counts')
    obtain rfl := (apart.apart _ t c counts more cell bound bound').eq_of_not_package nofun
    obtain ⟨others, mem, -⟩ := counts'
    exact Nat.lt_irrefl a ((pairwise_cons.1 apart.order).1 _ mem)

lemma own_step (place) (calls : Calls) (mine names y m) (apart : m.Separated role calls)
    (situated : Situated place calls mine names m) (mem : y ∈ mine) :
    Ends (Stays role calls) (evaluate place (steps + 1) (.call (.name y) [])) m fun v =>
      Returns calls (.returned v) := by
  obtain ⟨outside, a, params, rest, rfl, other⟩ := situated.mine y mem
  have frame : place.frame = some a := situated.frame
  have here : place.slot y = .frame a y := by
    rw [Place.slot, outside, frame]
  obtain ⟨f, found, own⟩ := situated.own a outside frame
  cases steps with
  | zero => exact .throw_bind (.refl apart)
  | succ k =>
    refine .bind .trans (ends_follows apart (ends_lookUp_own outside fun b same => ?_)) ?_
    · grind
    · rintro v _ - ⟨rfl, bound | ⟨nowhere, -⟩⟩
      · rw [here] at bound
        have fresh := fresh_of_own apart other bound
        refine .bind .trans (.pure (.refl apart)
          (Q := fun args m' => args = [] ∧ m' = _) ⟨rfl, rfl⟩) ?_
        rintro _ _ - ⟨rfl, rfl⟩
        split
        case _ => exact absurd rfl (fresh.1.1 .locals)
        case _ =>
          refine (sound.call _ _ _ [] _ (Nat.le_refl _) apart).weaken fun w m1 stays answers => ?_
          rintro _ _ _ _ ⟨⟩ ⟨⟩
          obtain rfl | fresh' := answers.itself rfl fresh.1.1
          · exact fresh.stay stays.leave
          · exact fresh'.weaken (get?_lt found) fun t counts => counts_cons.2 (.inr counts)
      · grind

end BlockScript.Run
