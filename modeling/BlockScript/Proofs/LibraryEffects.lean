import BlockScript.Proofs.Effects

/-!
What the library can do to a machine: it works on values, cursors and connections, and tables call
back the program for new elements.
-/

namespace BlockScript

open Eval Machine Asking

namespace Connect

variable [Connecting R]

lemma keeps_onDatabase (rests : ∀ d : Database, d.Rests (f d)) :
    Keeps R (onDatabase f) := fun m => .of_ok rfl (Connecting.rest m (rests _)) trivial

lemma ends_onDatabase {m : Machine} (moved : Database.Moves move m.database (f m.database)) :
    Ends R (onDatabase f) m fun _ _ => True := .of_ok rfl (Connecting.move m moved) trivial

lemma keeps_start_of [Asking S] (connects : ∀ target, Keeps S (onDatabase (·.connect target)))
    (isForced : Bool) : Keeps S (start isForced) := by
  refine .bind .get fun machine => ?_
  dsimp only
  split
  · exact .pure _
  · refine (keeps_truth _).bind fun hasTarget => ?_
    split
    · exact (keeps_snapshot _).bind connects
    · exact .fail_bind _ _

@[grind ←]
lemma keeps_start : ∀ isForced, Keeps R (start isForced) :=
  keeps_start_of fun _ _ => ends_onDatabase (.connect _ _)

lemma ends_top (m) : Ends R top m fun c m' => m'.database.top? = some c := by
  refine .next (keeps_start false m) fun _ m' _ _ => ?_
  refine .next (.of_ok (Q := fun now m'' => now = m'' ∧ m'' = m') rfl (refl m') ⟨rfl, rfl⟩) ?_
  rintro now m'' - ⟨rfl, rfl⟩
  split
  case _ top => exact .done top
  case _ => exact .failed

@[grind ←]
lemma keeps_top : Keeps R top := fun m => (ends_top m).forget

@[grind ←]
lemma keeps_setup (target) : Keeps R (setup target) :=
  .bind (keeps_onDatabase fun _ => by exact ⟨rfl, rfl, rfl⟩) fun _ => keeps_start false

@[grind ←]
lemma keeps_commit : Keeps R commit := fun m =>
  .next (ends_top m) fun _ _ _ top => ends_onDatabase (.commit top)

@[grind ←]
lemma keeps_rollback : Keeps R rollback := fun m =>
  .next (ends_top m) fun _ _ _ top => ends_onDatabase (.rollback top)

@[grind ←]
lemma keeps_expectCommit : Keeps R expectCommit := by
  refine keeps_top.bind fun c => ?_
  split
  · exact .pure _
  · exact .fail _

@[grind ←]
lemma keeps_expectRollback : Keeps R expectRollback := by
  refine keeps_top.bind fun c => ?_
  split
  · exact .pure _
  · exact .fail _

@[grind ←]
lemma keeps_expectAutonomous (isExpected : Bool) : Keeps R (expectAutonomous isExpected) := by
  grind [expectAutonomous]

end Connect

namespace Query

section

variable [Asking R] (a : Address) (query : Value) (m : Machine)

lemma ends_cursorAt :
    Ends R (cursorAt a) m fun c m' => m' = m ∧ m.store.get? a = some (.cursor c) := by
  refine .load ?_
  split
  case _ c found => exact .done ⟨rfl, found⟩
  case _ => exact .failed

lemma ends_mockAt : Ends R (mockAt a) m fun c m' => m' = m ∧ m.store.get? a = some (.mock c) := by
  refine .load ?_
  split
  case _ c found => exact .done ⟨rfl, found⟩
  case _ => exact .failed

lemma ends_executionAt :
    Ends R (executionAt a) m fun x m' => m' = m ∧ m.store.get? a = some (.execution x) := by
  refine .load ?_
  split
  case _ x found => exact .done ⟨rfl, found⟩
  case _ => exact .failed

@[grind ←]
lemma keeps_cursorAt : Keeps R (cursorAt a) := by grind [cursorAt]

lemma keeps_mockAt : Keeps R (mockAt a) := by grind [mockAt]

lemma keeps_executionAt : Keeps R (executionAt a) := by grind [executionAt]

@[grind ←]
lemma keeps_bindParameters (params args) : Keeps R (bindParameters params args) := by
  grind [bindParameters]

lemma keeps_bindFields (binds name fields) : Keeps R (bindFields binds name fields) := by
  grind [bindFields]

@[grind ←]
lemma keeps_bindName (params locals binds name) :
    Keeps R (bindName params locals binds name) := by
  refine (keeps_hasItem params name).bind fun isParameter => ?_
  split
  · exact .pure _
  refine (keeps_hasItem locals name).bind fun isLocal => ?_
  split
  · refine (keeps_item locals name).bind fun w => (keeps_unwrap w).bind fun v =>
      (keeps_objectOf? v).bind fun o => ?_
    split
    · exact (keeps_text name).bind fun _ => keeps_bindFields _ _ _
    · exact (keeps_text name).bind fun _ => .pure _
  · exact (keeps_text name).bind fun _ => .fail_bind _ _

lemma keeps_bind (c : Cursor) (args locals) : Keeps R (bind c args locals) := by grind [bind]

lemma ends_answers (w : Value × Address) (m) :
    Ends R (answers query w) m fun is m' => m' = m ∧ (is = true → ∃ s, w.1 = .text s) := by
  unfold answers
  split
  case _ s isText =>
    split
    · exact .failed
    · split
      · exact .done ⟨rfl, fun _ => ⟨s, isText⟩⟩
      · exact .failed
  case _ => exact .failed

lemma ends_choose (mocks : List (Value × Address)) (m) :
    Ends R (choose query mocks) m fun choice m' => m' = m ∧ ∀ k others, choice = some (k, others) →
        ∃ before after s, mocks = before ++ (.text s, k) :: after ∧ others = before ++ after := by
  induction mocks with
  | nil => exact .done ⟨rfl, nofun⟩
  | cons w mocks ih =>
    refine .same (ends_answers query w m) fun isAnswer texts => ?_
    split
    case _ chosen =>
      refine .done ⟨rfl, ?_⟩
      rintro _ _ ⟨⟩
      obtain ⟨s, isText⟩ := texts chosen
      exact ⟨[], mocks, s, by rw [← isText]; rfl, rfl⟩
    case _ =>
      refine .next ih ?_
      rintro choice _ - ⟨rfl, parts⟩
      refine .done ⟨rfl, fun k others same => ?_⟩
      cases choice with
      | none => cases same
      | some found => grind

lemma keeps_choose (mocks : List (Value × Address)) :
    Keeps R (choose query mocks) := fun m => (ends_choose query mocks m).forget

@[grind ←]
lemma gives_isOpen : Gives R (isOpen a) := by grind [isOpen]

@[grind ←]
lemma gives_found : Gives R (found a) := by grind [found]

@[grind ←]
lemma gives_negate (v) : Gives R (negate v) := by grind [negate]

@[grind ←]
lemma gives_notFound : Gives R (notFound a) := by grind [notFound]

lemma keeps_dataOf (content) : Keeps R (dataOf content) := by
  unfold dataOf
  grind

@[grind ←]
lemma gives_expectOpenWith (content) : Gives R (expectOpenWith a content) := by
  refine .bind (keeps_dataOf content) fun expected => .bind (keeps_mockAt a) fun mock => ?_
  split
  · exact .fail _
  · refine .bind (keeps_executionAt _) fun e => .bind (keeps_new id) fun actual =>
      .bind (keeps_holds .eq expected actual) fun isMet => ?_
    split
    · exact .pure trivial
    · exact .fail_bind _ _

lemma keeps_distribute_of (row) (assigns : ∀ target ∈ targets, ∀ v, Keeps R (assign target v)) (i) :
    Keeps R (distribute row i targets) := by
  induction targets generalizing i with
  | nil => exact .pure _
  | cons target targets ih =>
    rw [forall_mem_cons] at assigns
    refine (keeps_item row _).bind fun v => ?_
    have assigned (w) : Keeps R (do
        discard (assign target (← wrap w))
        distribute row (i + 1) targets) :=
      (keeps_wrap w).bind fun u => (assigns.1 u).discard.bind fun _ => ih assigns.2 (i + 1)
    split
    · exact assigned .null
    · exact assigned v

lemma keeps_distribute [Assigning A] (row targets) : ∀ i, Keeps A (distribute row i targets) :=
  keeps_distribute_of row fun target _ => keeps_assign target

end

section

variable [Querying R] {m : Machine}

lemma ends_execute (found : m.store.get? a = some o) (is : o.outline = .execution {})
    (top : m.database.top? = some c) (query binds) :
    Ends R (execute c.id a query binds) m fun _ _ => True := by
  have answer : o.IsAnswer := by
    rw [← Object.isAnswer_outline, is]
    exact trivial
  refine .next (ends_putAnswer found answer (refl m) is.symm) ?_
  intro _ m1 first same
  rw [← same] at top
  refine .next ((looks_snapshot query).ends m1) ?_
  rintro shown _ - rfl
  refine .next ((Looks.mapM (fun b m => ?_) binds).ends _) ?_
  · exact ⟨_, bind_ok (looks_snapshot b.2 m).choose_spec⟩
  rintro values _ - rfl
  refine .next (Connect.ends_onDatabase (.execute top _ _)) fun _ m2 second _ => ?_
  refine .next (keeps_unwrap query m2) fun text m3 third _ => ?_
  refine .next (Keeps.get m3) fun machine m4 fourth _ => ?_
  refine .next (keeps_choose text _ m4) fun choice m5 fifth _ => ?_
  split
  · exact .failed
  · refine .next (Connect.keeps_onDatabase (fun _ => by exact ⟨rfl, rfl, rfl⟩) m5) ?_
    rintro _ m6 sixth -
    refine .same (ends_mockAt _ m6) fun mock isMock => ?_
    refine .next (ends_putAnswer isMock trivial (refl _) rfl) ?_
    intro _ m7 seventh _
    have rel := trans first (trans second (trans third
      (trans fourth (trans fifth (trans sixth seventh)))))
    exact .forget (ends_putAnswer found answer rel is.symm)

lemma keeps_nextRow (e : Execution) : Keeps R (nextRow e) := fun m => by
  unfold nextRow
  split
  · exact .failed
  · refine .same (ends_mockAt _ m) fun mock found => ?_
    split
    · exact .next (ends_putAnswer found trivial (refl _) rfl) fun _ m' _ _ => .done trivial
    · exact .done trivial

end

variable [Working R]

@[grind ←]
lemma gives_openWith (a args locals) : Gives R (openWith a args locals) := fun m n small => by
  refine .same (ends_cursorAt a m) fun c found => ?_
  refine .next (keeps_bind c args locals _) fun binds m1 first _ => ?_
  refine .next (Connect.ends_top m1) fun connection m2 second top => ?_
  refine .next (.of_ok (Q := fun e m' => m' = m2.push (.execution { binds }) ∧
    e = m2.store.size) rfl (Working.pushQuery m2 trivial) ⟨rfl, rfl⟩) ?_
  rintro e _ third ⟨rfl, rfl⟩
  have rel := trans first (trans second third)
  refine .next (ends_put found id rel rfl) fun _ m3 fourth same => ?_
  obtain ⟨o, kept, outline⟩ := (follows fourth).get? (get?_push_size m2 _)
  replace top : m3.database.top? = some connection := by rw [same]; exact top
  refine .next (ends_execute kept outline top c.query binds) fun _ m4 _ _ => ?_
  refine .next (keeps_executionAt _ m4) fun e m5 _ _ => ?_
  refine .next (Connect.keeps_onDatabase (fun _ => by exact ⟨rfl, rfl, rfl⟩) m5) ?_
  rintro _ m6 - -
  exact .done (.of_isBare trivial)

@[grind ←]
lemma gives_fetch (a targets) : Gives R (fetch a targets) := fun m n small => by
    refine .same (ends_cursorAt a m) fun c found => ?_
    split
    · exact .failed
    · refine .next (keeps_executionAt _ _) fun e m1 first _ => ?_
      refine .next (keeps_nextRow e m1) fun row m2 second _ => ?_
      have rel := trans first second
      refine .next (ends_put found id rel rfl) fun _ m3 third _ => ?_
      have rest (isFound : Bool) : Gives R (do
          if isFound then distribute row 0 targets
          return Value.none) := by
        cases isFound with
        | true => exact .bind (keeps_distribute row targets 0) fun _ => .pure trivial
        | false => exact .pure trivial
      exact rest _ m3 n (Nat.le_trans small (size_le (trans rel third)))

@[grind ←]
lemma gives_close (a) : Gives R (close a) := fun m n _ => by
  refine .same (ends_cursorAt a m) fun c found => ?_
  split
  · exact .fail_bind (refl _)
  · refine .next (ends_put found id (refl _) rfl) fun _ m' _ _ => ?_
    exact .done (.of_isBare trivial)

@[grind ←]
lemma gives_cursor (query binds params) : Gives R (cursor query binds params) :=
  gives_new_of fun m => Working.pushQuery m trivial

@[grind ←]
lemma gives_executeOnce (query binds locals) : Gives R (executeOnce query binds locals) :=
  .bind (keeps_new id) fun _ => .bind (keeps_allocateQuery trivial) fun a =>
    .bind (keeps_new id) fun _ => .bind (gives_openWith a _ _).keeps.discard fun _ => gives_close a

@[grind ←]
lemma gives_executeInto (query targets) : Gives R (executeInto query targets) := by
  refine .bind (keeps_new id) fun _ => .bind (keeps_new id) fun _ =>
    .bind (keeps_allocateQuery trivial) fun a => .bind (keeps_new id) fun _ =>
      .bind (keeps_new id) fun _ => .bind (gives_openWith a _ _).keeps.discard fun _ => ?_
  split
  · exact gives_close a
  · exact .bind (gives_fetch a targets).keeps.discard fun _ => gives_close a

@[grind ←]
lemma gives_sysContext (namespaceName parameter) :
    Gives R (sysContext namespaceName parameter) := by
  refine .bind (keeps_new id) fun _ => .bind (keeps_new id) fun _ =>
    .bind (keeps_allocateQuery trivial) fun a => .bind (keeps_new id) fun _ =>
      .bind (keeps_new id) fun _ => .bind (gives_openWith a _ _).keeps.discard fun _ => ?_
  refine Gives.bind_new (gives_wrap trivial) fun v m n _ new => ?_
  refine .next ((gives_fetch a [v]).keeps.discard m) fun _ m1 first _ => ?_
  refine .next ((gives_close a).keeps.discard m1) fun _ m2 second _ => ?_
  exact .done (new.follow (follows (trans first second)))

@[grind ←]
lemma gives_mock (pattern) : Gives R (mock pattern) := fun m n _ => by
  refine .next (.of_ok (Q := fun a m' => m' = m.push (.mock {}) ∧ a = m.store.size) rfl
    (Working.pushQuery m trivial) ⟨rfl, rfl⟩) ?_
  rintro _ _ - ⟨rfl, rfl⟩
  have made := get?_push_size m (.mock {})
  have result {m'} (rel : R (m.push (.mock {})) m') : New n (.object m.store.size) m' := by
    refine ⟨nofun, ?_⟩
    rintro c ⟨⟩
    obtain ⟨o, found, outline⟩ := (follows rel).get? made
    refine ⟨get?_lt found, fun cell => ?_⟩
    obtain ⟨content, same⟩ := cell
    grind
  refine .next (keeps_unwrap pattern _) fun pattern m1 first _ => ?_
  refine .next (keeps_isKey pattern m1) fun isKey m2 second _ => ?_
  split
  case _ =>
    refine .next (Keeps.get m2) fun machine m3 third _ => ?_
    have known : Keeps R (machine.database.mocks.findM? fun m => itemsEqual compare pattern m.1) :=
      .findM? (fun (shown, _) => keeps_itemsEqual gives_compare pattern shown) _
    refine .next (known m3) fun found m4 fourth _ => ?_
    have rel := trans first (trans second (trans third fourth))
    have waits (mocks) {m'} (later : R m4 m') : Ends R (do
          Connect.onDatabase ({ · with mocks })
          return Value.object m.store.size) m' (New n) := by
      refine .next (Connect.keeps_onDatabase (fun _ => by exact ⟨rfl, rfl, rfl⟩) m') ?_
      intro _ m'' last _
      exact .done (result (trans rel (trans later last)))
    split
    · exact waits _ (refl m4)
    · refine .next (Keeps.mapM (fun m => ?_) _ m4) ?_
      rotate_left
      · exact fun mocks m5 fifth _ => waits mocks fifth
      refine (keeps_itemsEqual gives_compare pattern m.1).bind fun same => ?_
      split <;> exact .pure _
  case _ => exact .fail_bind (refl m2)

lemma gives_changeMock (a) (change : Mock → Mock) : Gives R (do
    put a (.mock (change (← mockAt a)))
    return Value.none) := fun m n _ => by
  refine .same (ends_mockAt a m) fun mock found => ?_
  refine .next (ends_put found id (refl _) rfl) fun _ m' _ _ => ?_
  exact .done (.of_isBare trivial)

@[grind ←]
lemma gives_returns (a content) : Gives R (returns a content) :=
  .bind (keeps_dataOf content) fun v => .bind (keeps_toItems v) fun _ => gives_changeMock a _

@[grind ←]
lemma gives_setRowCount (a rowCount) : Gives R (setRowCount a rowCount) := gives_changeMock a _

end Query

namespace Standard

variable [Asking R]

@[grind ←]
lemma gives_character (code : Int) : Gives R (character code) := by grind [character]

lemma gives_unlessAbsent (v) (gives : Gives R x) :
    Gives R (do if ← isAbsent v then return .null else x) := by
  refine .bind (keeps_isAbsent v) fun absent => ?_
  split
  · exact .pure trivial
  · exact gives

@[grind ←]
lemma gives_chr (n) : Gives R (chr n) := by grind [chr]

@[grind ←]
lemma keeps_textFor (operation v) : Keeps R (textFor operation v) := by
  intro m
  unfold textFor
  split
  · exact .done trivial
  · refine .load ?_
    split
    case _ fields found => exact .next (ends_field found _).discard fun _ m' _ _ => .failed
    · exact .failed
  · exact .failed

@[grind ←]
lemma keeps_textArgument (v) : Keeps R (textArgument v) := by
  unfold textArgument
  grind

@[grind ←]
lemma gives_instr (text part) : Gives R (instr text part) := by grind [instr]

@[grind ←]
lemma gives_length (v) : Gives R (length v) := by grind [length]

@[grind ←]
lemma gives_onShown (f : String → String) (v) : Gives R (onShown f v) := by grind [onShown]

@[grind ←]
lemma gives_mod (n divisor) : Gives R (mod n divisor) := by grind [mod]

lemma ends_nvl (v replacement m) :
    Ends R (nvl v replacement) m fun w _ => w = v ∨ w = replacement := by
  refine .next (keeps_isAbsent v m) fun absent m' _ _ => ?_
  split
  · exact .done (.inr rfl)
  · exact .done (.inl rfl)

@[grind ←]
lemma gives_raiseError [Working W] (number message) : Gives W (raiseError number message) := by
  refine .bind (keeps_unwrap number) fun number => .bind (keeps_text number) fun _ =>
    .bind (keeps_unwrap message) fun _ => .bind (keeps_text _) fun _ =>
      .bind (keeps_wrap number) fun _ => .bind ?_ fun _ => .bind (keeps_wrap _) fun _ =>
        .bind ?_ fun _ => .fail _
  · exact .modify (fun _ => rfl) (fun _ => rfl) fun _ => rfl
  · exact .modify (fun _ => rfl) (fun _ => rfl) fun _ => rfl

lemma gives_replaced (src search new) : Gives R (replaced src search new) := by grind [replaced]

lemma ends_replace (small : n ≤ m.store.size) (src search replacement) :
    Ends R (replace src search replacement) m fun w m' => w = src ∨ New n w m' := by
  refine .next (keeps_isAbsent src m) fun absent m1 first _ => ?_
  split
  · exact .done (.inl rfl)
  refine .next (keeps_isAbsent search m1) fun absent m2 second _ => ?_
  split
  · exact .done (.inl rfl)
  have larger := size_le (trans first second)
  have made : Gives R (do
      let src ← unwrap src
      let search ← unwrap search
      let new ← if ← isAbsent replacement then pure (Value.text "") else unwrap replacement
      replaced src search new) := by
    refine .bind (keeps_unwrap src) fun src => .bind (keeps_unwrap search) fun search =>
      .bind (keeps_isAbsent replacement) fun absent => ?_
    split
    · exact gives_replaced _ _ _
    · exact .bind (keeps_unwrap replacement) (gives_replaced src search)
  exact (made m2 n (by omega)).weaken fun _ _ _ new => .inr new

lemma gives_part (string length pos) : Gives R (part string length pos) := by
  unfold part
  grind

@[grind ←]
lemma gives_substr (string pos length) : Gives R (substr string pos length) := by
  refine gives_unlessAbsent string ?_
  refine gives_unlessAbsent pos ?_
  refine .bind (keeps_unwrap string) fun string => .bind (keeps_unwrap pos) fun pos =>
    .bind (keeps_unwrap length) fun length => .bind (keeps_holds _ _ _) fun isZero => ?_
  have counted (pos) : Gives R (do
      let pos ← if ← holds .gt pos (.int 0) then sub pos (.int 1) else pure pos
      part string length pos) := by
    refine .bind (keeps_holds _ _ _) fun isPositive => ?_
    cases isPositive with
    | true => exact .bind (gives_sub _ _).keeps (gives_part string length)
    | false => exact gives_part string length pos
  cases isZero with
  | true => exact counted (.int 1)
  | false => exact counted pos

@[grind ←]
lemma gives_toNumber (v) : Gives R (toNumber v) := by grind [toNumber]

@[grind ←]
lemma gives_trim (operation) (f : List Char → List Char) (v) : Gives R (trim operation f v) := by
  grind [trim]

@[grind ←]
lemma gives_filled (toLeft v count fill) : Gives R (filled toLeft v count fill) := by
  refine .bind (keeps_unwrap v) fun v => .bind (keeps_unwrap count) fun count =>
    .bind (keeps_unwrap fill) fun fill => .bind (keeps_length v) fun size =>
      .bind (keeps_holds _ _ _) fun isLong => ?_
  split
  · exact .bind (keeps_toPosition count) fun _ => gives_slice v _
  · refine .bind (gives_sub _ _).keeps fun left => .bind (keeps_length fill) fun fillSize =>
      .bind (gives_div _ _).keeps fun ratio => .bind (keeps_toInteger ratio) fun times =>
        .bind (gives_mul _ _).keeps fun whole => .bind (Eval.gives_mod _ _).keeps fun rest =>
          .bind (keeps_toPosition rest) fun stop => .bind (gives_slice fill _).keeps fun part =>
            .bind (gives_add _ _).keeps fun filling => .bind (keeps_truth toLeft) fun isLeft => ?_
    split
    · exact gives_add filling v
    · exact gives_add v filling

@[grind ←]
lemma gives_pad (toLeft v count fill) : Gives R (pad toLeft v count fill) := by
  unfold pad
  grind

end Standard
namespace Table

section

variable [Asking R] (a : Address) (index : Value)

lemma ends_contents (m) : Ends R (contents a) m fun c m' =>
      m' = m ∧ m.store.get? a = some (.table c.1 c.2) := by
  refine .load ?_
  split
  case _ items element found => exact .done ⟨rfl, found⟩
  case _ => exact .failed

@[grind ←]
lemma keeps_contents : Keeps R (contents a) := by grind [contents]

@[grind ←]
lemma gives_delete [Assigning A] : Gives A (delete a) := fun m n _ => by
  refine .same (ends_contents a m) fun c found => ?_
  refine .next (ends_putValues found trivial (refl _) rfl) fun _ m' _ _ => ?_
  exact .done (.of_isBare trivial)

@[grind ←]
lemma gives_exists? : Gives R (exists? a index) := by
  refine .bind (keeps_unwrap index) fun index => .bind (gives_sub _ _).keeps fun offset => ?_
  refine (gives_compare _ _ _).bind_new fun nonnegative m n small new => ?_
  refine .next (keeps_truth nonnegative m) fun isNonnegative m1 first _ => ?_
  split
  · have compared : Gives R (do compare .lt offset (.int (← contents a).1.length)) :=
      .bind (keeps_contents a) fun _ => gives_compare _ _ _
    exact compared m1 n (Nat.le_trans small (size_le first))
  · exact .done (new.follow (follows first))

@[grind ←]
lemma gives_count : Gives R (count a) := by grind [count]

@[grind ←]
lemma gives_next : Gives R (next a index) := by grind [next]

@[grind ←]
lemma gives_prior : Gives R (prior index) := by grind [prior]

end

/-! A table grows by elements that the program may make. So it is only as well behaved as what it
calls. -/

/-- A relation between machines that operations on values cannot leave, as they are known by
another one. -/
structure Tracks (B R : Machine → Machine → Prop) : Prop where
  here : ∀ {m m' : Machine}, R m m' → R m' m'
  trans : ∀ {m m' m'' : Machine}, R m m' → R m' m'' → R m m''
  follow : ∀ {m m' : Machine}, R m m → B m m' → R m m'

lemma Tracks.lift (tracks : Tracks B R) (start : R m m) (ends : Ends B x m Q) : Ends R x m Q :=
  ends.imp (fun _ rel => tracks.follow start rel) fun _ _ _ due => due

lemma keeps_slot [Asking R] (a offset) : Keeps R (slot a offset) := by grind [slot]

section

variable {make : Value → Eval Value} [Assigning B] (tracks : Tracks B R)
  (makes : ∀ v m, R m m → Ends R (make v) m fun _ _ => True) (a : Address)
include tracks makes

lemma ends_extend (count : Nat) : ∀ m, R m m → Ends R (extend make a count) m fun _ _ => True := by
  induction count with
  | zero => exact fun m start => .pure start trivial
  | succ count ih =>
    intro m start
    refine .bind tracks.trans (tracks.lift start (keeps_contents a m)) fun c m1 first _ => ?_
    refine .bind tracks.trans (makes c.2 m1 (tracks.here first)) fun v m2 second _ => ?_
    refine .bind tracks.trans (tracks.lift (tracks.here second) (ends_contents a m2)) ?_
    rintro c _ third ⟨rfl, found⟩
    have stored := ends_putValues (A := B) (o := .table (c.1 ++ [v]) c.2) found trivial
      (refl _) rfl
    refine .bind tracks.trans (tracks.lift (tracks.here third) stored) fun _ m3 fourth _ => ?_
    exact ih m3 (tracks.here fourth)

lemma ends_reach (index) (start : R m m) : Ends R (reach make a index) m fun _ _ => True := by
  have lift {α : Type} {x : Eval α} {m} (start) (keeps : Keeps B x) := tracks.lift start (keeps m)
  refine .bind tracks.trans (lift start (keeps_unwrap index)) fun index m1 r1 _ => ?_
  refine .bind tracks.trans (lift (tracks.here r1) (gives_sub _ _).keeps) fun offset m2 r2 _ => ?_
  refine .bind tracks.trans (lift (tracks.here r2) (keeps_contents a)) fun c m3 r3 _ => ?_
  refine .bind tracks.trans (lift (tracks.here r3) (gives_add _ _).keeps) fun wanted m4 r4 _ => ?_
  refine .bind tracks.trans (lift (tracks.here r4) (keeps_holds _ _ _)) fun isThere m5 r5 _ => ?_
  split
  · exact .pure (tracks.here r5) trivial
  · refine .bind tracks.trans (lift (tracks.here r5) (gives_sub _ _).keeps) fun left m6 r6 _ => ?_
    refine .bind tracks.trans (ends_extend tracks makes a _ m6 (tracks.here r6)) fun _ m7 r7 _ => ?_
    exact .pure (tracks.here r7) trivial

lemma ends_get (index) (start : R m m) : Ends R (get make a index) m fun _ _ => True := by
  refine .bind tracks.trans (ends_reach tracks makes a index start) fun offset m1 r1 _ => ?_
  refine tracks.lift (tracks.here r1) ((keeps_slot a offset).bind (fun i => ?_) m1)
  exact (keeps_contents a).bind fun _ => .pure _

lemma ends_set (index v) (start : R m m) : Ends R (set make a index v) m fun _ _ => True := by
  refine .bind tracks.trans (ends_reach tracks makes a index start) fun offset m1 r1 _ => ?_
  refine tracks.lift (tracks.here r1) ?_
  refine .next (keeps_slot a offset m1) fun i m2 _ _ => ?_
  refine .same (ends_contents a m2) fun c found => ?_
  exact .forget (ends_putValues found trivial (refl _) rfl)

end

end Table

namespace Library

section

variable [Asking R]

lemma keeps_ofOption (o : Option Value) : Keeps R (ofOption o) := by
  unfold ofOption
  grind

lemma keeps_methodOf (owner : LibraryClass) (a name) : Keeps R (methodOf owner a name) := by
  grind [methodOf]

lemma keeps_classMember? (owner : LibraryClass) (name) : Keeps R (classMember? owner name) := by
  unfold classMember?
  grind

@[grind ←]
lemma keeps_member (v name) : Keeps R (member v name) := fun m => by
  unfold member
  split
  · exact (keeps_classMember? _ name).bind keeps_ofOption m
  · exact (keeps_classMember? _ name).bind keeps_ofOption m
  case _ a =>
    refine .load ?_
    split
    · split
      · exact .done trivial
      · exact .failed
    case _ fields found =>
      split
      · exact .done trivial
      · exact ends_field found name
    · split
      · exact keeps_new id m
      · exact .done trivial
      · exact keeps_methodOf _ a name m
    · split
      iterate 5 exact .done trivial
      · exact keeps_methodOf _ a name m
    · split
      · split
        · exact keeps_new id m
        · exact .done trivial
      · exact .done trivial
      · exact .done trivial
      · exact keeps_methodOf _ a name m
    · exact Keeps.bind .get (fun _ => keeps_ofOption _) m
    · split
      · exact .done trivial
      · exact Keeps.bind .get (fun _ => keeps_ofOption _) m
    · exact .failed
  · exact .failed

/-- Members change values only, except those of the program's packages. A cell has one, by which it
can be given any value. -/
lemma ends_setMember [Working W]
    (other : ∀ (a) (p), target = .object a → m.store.get? a ≠ some (.package p))
    (cell : ∀ a, target = .object a → m.IsCell a → name = "value" →
      W m (m.put a (.cell v))) :
    Ends W (setMember target name v) m fun _ _ => True := by
  have changed (change) (store : ∀ m, (change m).store = m.store)
      (globals : ∀ m, (change m).globals = m.globals)
      (database : ∀ m, (change m).database = m.database) :
      Ends W (modify change) m fun _ _ => True := Keeps.modify store globals database m
  unfold setMember
  split
  · split
    · exact changed _ (fun _ => rfl) (fun _ => rfl) fun _ => rfl
    · split
      · exact changed _ (fun _ => rfl) (fun _ => rfl) fun _ => rfl
      · exact .done trivial
  iterate 5 exact .done trivial
  case _ a =>
    refine .load ?_
    split
    case _ found =>
      split
      case _ named => exact .of_ok (put_eq a _ m) (cell a rfl ⟨_, found⟩ (beq_iff_eq.1 named)) trivial
      · exact .done trivial
    case _ found => exact .forget (ends_put found id (refl _) rfl)
    iterate 3
      case _ found =>
        split
        · exact .forget (ends_put found id (refl _) rfl)
        · exact .done trivial
    case _ p found => exact absurd found (other a p rfl)
    case _ found => exact .forget (ends_put found id (refl _) rfl)
    · exact .done trivial
    · exact .failed
  · exact .failed

end

section

variable [Working R]

@[grind ←]
lemma gives_construct (owner : LibraryClass) (args) : Gives R (construct owner args) := by
  unfold construct
  split
  · exact .pure trivial
  iterate 3 exact gives_new id
  · exact Query.gives_cursor _ _ _
  · exact Query.gives_mock _
  all_goals first | exact .pure trivial | exact .fail _

@[grind ←]
lemma gives_putLine (v) : Gives R (putLine v) := .bind (keeps_text v) fun _ =>
    .bind (.modify (fun _ => rfl) (fun _ => rfl) fun _ => rfl) fun _ => .pure trivial

@[grind ←]
lemma gives_ofUnit (keeps : Keeps R action) : Gives R (ofUnit action) := by grind [ofUnit]

@[grind ←]
lemma gives_applyMethod (a) (method : Method) (args) : Gives R (applyMethod a method args) := by
  unfold applyMethod
  split
  · exact Table.gives_delete a
  · exact Table.gives_exists? a _
  · exact Table.gives_count a
  · exact Table.gives_count a
  · exact gives_wrap trivial
  · exact Table.gives_next a _
  · exact Table.gives_prior _
  · refine .bind (keeps_load? a) fun o => ?_
    split
    · exact gives_new id
    · exact .fail _
  · exact Query.gives_openWith a _ _
  · exact Query.gives_fetch a _
  · exact Query.gives_close a
  · exact Query.gives_isOpen a
  · exact Query.gives_found a
  · exact Query.gives_notFound a
  · exact .bind (keeps_member _ _) fun _ => Query.gives_returns a _
  · grind
  · grind
  · exact .fail _

@[grind ←]
lemma keeps_connectionTarget (v) : Keeps R (connectionTarget v) := by
  unfold connectionTarget
  grind

def handsOn : Routine → Bool
  | .wrap | .unwrap | .nvl | .replace | .rowCount => true
  | _ => false

@[grind ←]
lemma gives_apply (own : handsOn r = false) (args : List Value) : Gives R (apply r args) := by
  have closes : Keeps R (Connect.onDatabase (·.closeTop)) :=
    fun _ => Connect.ends_onDatabase (.close _)
  unfold apply
  split <;> first | exact Standard.gives_onShown _ _ | grind [handsOn]

lemma ends_apply_given (given : r = .wrap ∨ r = .nvl ∨ r = .replace) (small : n ≤ m.store.size)
    (args) :
    Ends R (apply r args) m fun w m' => w ∈ args ∨ New n w m' := by
  have replaced (src search replacement) (given : src ∈ args) :
      Ends R (Standard.replace src search replacement) m fun w m' => w ∈ args ∨ New n w m' := by
    refine (Standard.ends_replace small src search replacement).weaken ?_
    rintro w m' follows (rfl | new)
    · exact .inl given
    · exact .inr new
  rcases given with rfl | rfl | rfl
  · match args with
    | [] => exact (gives_wrap (v := .none) trivial m n small).weaken fun _ _ _ new => .inr new
    | [v] =>
      refine (ends_wrap small v).weaken ?_
      rintro w m' follows (⟨rfl, -⟩ | new)
      · exact .inl mem_cons_self
      · exact .inr new
    | _ :: _ :: _ => exact .failed
  · match args with
    | [v, w] =>
      refine (Standard.ends_nvl v w m).weaken ?_
      rintro u m' follows (rfl | rfl)
      · exact .inl (by simp)
      · exact .inl (by simp)
    | [] | [_] | _ :: _ :: _ :: _ => exact .failed
  · obtain _ | ⟨src, _ | ⟨_, _ | ⟨last, _ | _⟩⟩⟩ := args
    iterate 2 exact .failed
    · exact replaced _ _ _ mem_cons_self
    · cases last <;> exact replaced _ _ _ mem_cons_self
    · cases last <;> exact .failed

lemma keeps_apply (r : Routine) (args) : Keeps R (apply r args) := by
  have handed (given : r = .wrap ∨ r = .nvl ∨ r = .replace) : Keeps R (apply r args) := fun _ =>
    (ends_apply_given given (Nat.zero_le _) args).forget
  cases own : handsOn r with
  | false => exact (gives_apply own args).keeps
  | true =>
    unfold handsOn at own
    split at own
    · exact handed (.inl rfl)
    · obtain _ | ⟨v, _ | _⟩ := args
      · exact .fail _
      · exact keeps_unwrap v
      · exact .fail _
    · exact handed (.inr (.inl rfl))
    · exact handed (.inr (.inr rfl))
    · cases args with
      | nil => exact .bind .get fun _ => .pure _
      | cons => exact .fail _
    · cases own

lemma keeps_rangeBounds (lower upper) : Keeps R (rangeBounds lower upper) := by grind [rangeBounds]

end

lemma gives_callValue [Working R] (other : ∀ a, v ≠ .object a)
    (own : ∀ r, v = .routine r → handsOn r = false) (args) :
    Gives R (callValue call v args) := by
  unfold callValue
  grind

lemma ends_callValue_object [Working R] (a) (small : n ≤ m.store.size) :
    Ends R (callValue call (.object a) []) m fun w m' => w = .object a ∨ New n w m' := by
  refine .load ?_
  split
  iterate 4 exact .done (.inl rfl)
  · contradiction
  · contradiction
  · exact (gives_new id m n small).weaken fun _ _ _ new => .inr new
  · exact .failed

section

variable {call : Value → List Value → Eval Value} [Working B] (tracks : Table.Tracks B R)
  (calls : ∀ v args m, R m m → Ends R (call v args) m fun _ _ => True)
include tracks calls

lemma ends_callValue (v args) (start : R m m) :
    Ends R (callValue call v args) m fun _ _ => True := by
  have lift {x : Eval Value} (keeps : Keeps B x) := tracks.lift start (keeps m)
  unfold callValue
  split
  · grind
  · exact lift (keeps_apply _ args)
  · exact lift (gives_construct _ args).keeps
  · exact lift (gives_applyMethod _ _ args).keeps
  · grind
  case _ a =>
    refine .load ?_
    split
    iterate 5 exact .pure start trivial
    · exact Table.ends_get tracks (fun v m start => calls v [] m start) a _ start
    · exact lift (keeps_new id)
    · exact .fail start
  · exact .fail start

lemma ends_getItem (v index) (start : R m m) : Ends R (getItem call v index) m fun _ _ => True := by
  have lift {x : Eval Value} (keeps : Keeps B x) := tracks.lift start (keeps m)
  unfold getItem
  split
  · refine .load ?_
    split
    · exact Table.ends_get tracks (fun v m start => calls v [] m start) _ index start
    · exact lift (keeps_item _ index)
  · exact lift (keeps_item v index)

lemma ends_setItem (target index v) (start : R m m) :
    Ends R (setItem call target index v) m fun _ _ => True := by
  have lift {x : Eval Unit} (keeps : Keeps B x) := tracks.lift start (keeps m)
  unfold setItem
  split
  · refine .load ?_
    split
    · exact Table.ends_set tracks (fun v m start => calls v [] m start) _ index v start
    · exact lift (keeps_setItem _ index v)
  · exact lift (keeps_setItem target index v)

end

end Library
end BlockScript
