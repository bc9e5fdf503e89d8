import BlockScript.Proofs.TameRuns

/-!
Which variables share a cell. In everything that a program reaches whose declarations make what they
bind, two declared variables have different cells, so that assigning to one leaves the other as it
is.
-/

namespace BlockScript

namespace Target

variable {s : Stmt}

lemma mem_collected {f : α → List String} {all : List α → List String}
    (step : ∀ a rest, all (a :: rest) = f a ++ all rest) (mem : a ∈ as) (inner : x ∈ f a) :
    x ∈ all as := by
  induction as with
  | nil => cases mem
  | cons b rest ih =>
    rw [step, mem_append]
    obtain rfl | mem := mem_cons.1 mem
    · exact .inl inner
    · exact .inr (ih mem)

lemma bound_of_mem (mem : s ∈ body) (bound : x ∈ s.bound) : x ∈ boundInAll body :=
  mem_collected (fun _ _ => rfl) mem bound

lemma bound_of_block (mem : block ∈ s.blocks) (bound : x ∈ boundInAll block) : x ∈ s.bound := by
  unfold Stmt.blocks at mem
  split at mem
  · rw [Stmt.bound, mem_append]
    obtain rfl | mem := mem_cons.1 mem
    · exact .inl bound
    · grind
  · cases mem_singleton.1 mem
    exact bound
  · cases mem_singleton.1 mem
    exact mem_cons_of_mem _ bound
  · rw [Stmt.bound, mem_append]
    obtain rfl | mem := mem_cons.1 mem
    · exact .inl bound
    · obtain ⟨handler, isHandler, rfl⟩ := mem_map.1 mem
      exact .inr (mem_collected (f := boundInAll ∘ Handler.body) (fun ⟨_, _⟩ _ => rfl) isHandler
        bound)
  · cases mem

end Target

def Eval.Leads {α : Type} (x : Eval α) (m m' : Machine) : Prop :=
  match x m with
  | .ok _ final | .error _ final => final = m'

namespace Run

open Target Eval Machine

/-- What is reached while a program runs, with the calls that are going on, and the place and the
block that are run. The parts of a block can come in any order, and any routine can be called at any
time, so this is more than what is reached in runs. -/
inductive Reached (program : List Stmt) : Calls → Run.Place → List Stmt → Machine → Prop
  | start : Reached program [] {} program {}
  | inside {calls place body m s block} (reached : Reached program calls place body m)
      (mem : s ∈ body) (isBlock : block ∈ s.blocks) : Reached program calls place block m
  | executed {calls place body m s} {steps : Nat} {m' : Machine}
      (reached : Reached program calls place body m) (mem : s ∈ body)
      (leads : Leads (execute place steps s) m m') : Reached program calls place body m'
  | evaluated {calls place body m} {steps : Nat} {e : Expr} {m' : Machine}
      (reached : Reached program calls place body m)
      (leads : Leads (evaluate place steps e) m m') : Reached program calls place body m'
  | called {calls place body m} {steps : Nat} {v : Value} {arguments : List Value} {m' : Machine}
      (reached : Reached program calls place body m)
      (leads : Leads (call steps v arguments) m m') : Reached program calls place body m'
  /-- Operations on values, and what is done to the rest of the machine. -/
  | followed {calls place body m} {m' : Machine} (reached : Reached program calls place body m)
      (follows : m.Follows m') : Reached program calls place body m'
  /-- The variable of a loop gets its next value. -/
  | counted {calls place body m target range inner} {n : Int} {m' : Machine}
      (reached : Reached program calls place body m) (mem : .forLoop target range inner ∈ body)
      (leads : Leads (do bindName place target (← wrap (.int n))) m m') :
      Reached program calls place body m'
  | entered {calls place body m} {a : Nat} {f : Function} {arguments : List Value}
      (reached : Reached program calls place body m)
      (found : m.store.get? a = some (.function f)) :
      Reached program ((m.store.size, f.parameters) :: calls)
        { frame := some m.store.size, used := usedInStmts f.body } f.body (m.entered f arguments)
  | opened {calls place body m name bases inner} {addresses : List Address}
      (reached : Reached program calls place body m) (mem : .classDef name bases inner ∈ body) :
      Reached program calls { place with package := some m.store.size } inner
        (m.push (.package { name, bases := addresses, members := [] }))

section


lemma Ends.of_leads (ends : Ends R x m Q) (leads : Leads x m m') : R m m' := by
  unfold Ends at ends
  unfold Leads at leads
  split at ends
  case _ result => grind
  case _ result => grind

lemma Ends.of_forall_leads (all : ∀ m', Leads x m m' → R m m') : Ends R x m fun _ _ => True := by
  unfold Ends
  unfold Leads at all
  split
  case _ result => grind
  case _ result =>
    rw [result] at all
    exact all _ rfl

lemma get?_start {a : Nat} (found : ({} : Machine).store.get? a = some o) : o = .cell (.int 0) := by
  have small : a < 1 := get?_lt found
  obtain rfl : a = 0 := by omega
  cases found
  rfl

lemma slot?_start (s : Slot) : ({} : Machine).slot? s = none := by
  refine Option.eq_none_iff_forall_ne_some.2 fun v known => ?_
  cases s with
  | global y => cases known
  | frame a y | package a y =>
    obtain ⟨o, found⟩ := has_of_slot? known
    cases get?_start found

lemma separated_start (role : String → Role) : ({} : Machine).Separated role [] where
  suits s v known := by
    rw [slot?_start] at known
    cases known
  tame a f found := by cases get?_start found
  frames := nofun
  order := .nil
  there s c _ known := by
    rw [slot?_start] at known
    cases known
  young a y v _ known := by
    rw [slot?_start] at known
    cases known
  apart s t c _ _ _ known := by
    rw [slot?_start] at known
    cases known

structure Kept (role : String → Role) (calls : Calls) (place : Run.Place) (body : List Stmt)
    (mine : List String) (m : Machine) : Prop where
  separated : m.Separated role calls
  tame : areTame role mine place.package.isSome body = true
  situated : Situated place calls mine (boundInAll body) m

variable (steps : Nat)

lemma Kept.stay (kept : Kept role calls place body mine m) (stays : Stays role calls m m') :
    Kept role calls place body mine m' :=
  ⟨stays.separated, kept.tame, kept.situated.advance stays.advances⟩

lemma Reached.kept (known : ∀ x v, Library.exported? x = some v → role x = .library)
    (tame : areTame role [] false program = true) (reached : Reached program calls place body m) :
    ∃ mine, Kept role calls place body mine m := by
  induction reached with
  | start => exact ⟨[], separated_start role, tame, rfl, nofun, nofun, nofun⟩
  | inside _ mem isBlock ih =>
    obtain ⟨mine, apart, tame, situated⟩ := ih
    refine ⟨mine, apart, areTame_of_block (isTame_of_mem tame mem) isBlock, ?_⟩
    exact situated.mono fun y bound => bound_of_mem mem (bound_of_block isBlock bound)
  | @executed calls place body m s steps m' _ mem leads ih =>
    obtain ⟨mine, kept⟩ := ih
    have ends := (sound_steps known steps).execute place calls mine s m kept.separated
      (isTame_of_mem kept.tame mem) (kept.situated.mono fun y => bound_of_mem mem)
    exact ⟨mine, kept.stay (Ends.of_leads ends leads)⟩
  | @evaluated calls place body m steps e m' _ leads ih =>
    obtain ⟨mine, kept⟩ := ih
    have ends := (sound_steps known steps).evaluate place calls e m kept.separated
    exact ⟨mine, kept.stay (Ends.of_leads ends leads)⟩
  | @called calls place body m steps v args m' _ leads ih =>
    obtain ⟨mine, kept⟩ := ih
    have ends := (sound_steps known steps).ends_call v args m (.refl kept.separated)
    exact ⟨mine, kept.stay (Ends.of_leads ends leads)⟩
  | followed _ follows ih =>
    obtain ⟨mine, kept⟩ := ih
    exact ⟨mine, kept.stay (.follow kept.separated follows)⟩
  | @counted calls place body m target range inner n m' _ mem leads ih =>
    obtain ⟨mine, kept⟩ := ih
    have tame := isTame_of_mem kept.tame mem
    rw [Stmt.isTame, and_eq_true, decide_eq_true_iff] at tame
    have ends := ends_counted kept.separated tame.1 kept.situated n
    exact ⟨mine, kept.stay (Ends.of_leads ends leads)⟩
  | @entered calls place body m a f args _ found ih =>
    obtain ⟨mine, kept⟩ := ih
    have tame := kept.separated.tame a f found
    exact ⟨_, kept.separated.enter tame, tame.2, situated_entered f args _⟩
  | @opened calls place body m name bases inner addresses _ mem ih =>
    obtain ⟨mine, kept⟩ := ih
    have tame := isTame_of_mem kept.tame mem
    rw [Stmt.isTame, and_eq_true] at tame
    have made := stays_opened kept.separated name addresses
    refine ⟨[], made.separated, tame.2, ?_⟩
    exact (kept.situated.advance made.advances).inside (get?_push_size m _) _

lemma ends_reached : ∀ (rest) (m), (∀ s ∈ rest, s ∈ body) →
    Ends (fun m m' => Reached program calls place body m → Reached program calls place body m')
      (executeAll place steps rest) m fun _ _ => True := by
  induction steps with
  | zero => exact fun _ _ _ => .throw id
  | succ steps ih =>
    intro rest m inBody
    cases rest with
    | nil => exact .pure id trivial
    | cons s rest =>
      obtain ⟨here, later⟩ := forall_mem_cons.1 inBody
      refine .bind (fun first second earlier => second (first earlier))
        (Ends.of_forall_leads fun m' leads reached => reached.executed here leads)
        fun flow m1 _ _ => ?_
      split
      · exact ih rest m1 later
      · exact .pure id trivial

def outcome (steps : Nat) (program : List Stmt) : Machine :=
  match executeAll {} steps program {} with
  | .ok _ final | .error _ final => final

lemma reached_outcome (program : List Stmt) :
    Reached program [] {} program (outcome steps program) := by
  refine Ends.of_leads (ends_reached steps program {} fun _ mem => mem) ?_ .start
  unfold Leads outcome
  cases executeAll {} steps program {} <;> rfl

def ChangesOnly (c : Nat) (m m' : Machine) : Prop :=
  ∀ (d : Nat) o, c ≠ d → m.store.get? d = some o → m'.store.get? d = some o

lemma ChangesOnly.trans (first : ChangesOnly c m m') (second : ChangesOnly c m' m'') :
    ChangesOnly c m m'' :=
  fun d o other found => second d o other (first d o other found)

lemma ends_assign_only (c : Nat) (v m) :
    Ends (ChangesOnly c) (assign (.object c) v) m fun _ _ => True := by
  have same (m) : ChangesOnly c m m := fun _ _ _ found => found
  have putting (new m) : Ends (ChangesOnly c) (put c new) m fun _ _ => True :=
    .of_ok (put_eq c new m) (fun d o other found => (get?_put_of_ne other m new).trans found)
      trivial
  have wrapping : Ends (ChangesOnly c) (wrap v) m fun _ _ => True := by
    have made (new) : Ends (ChangesOnly c) (Eval.new new) m fun _ _ => True := .of_ok (new_eq new m)
        (fun d o _ found => get?_pushed found) trivial
    unfold wrap
    split
    · exact made _
    · exact .pure (same m) trivial
    · refine .load ?_
      split
      iterate 3 exact .pure (same m) trivial
      all_goals exact made _
    · exact made _
  have opening (src m) : Ends (ChangesOnly c) (cell? src) m fun _ _ => True := by
    unfold cell?
    split
    · refine .load ?_
      split <;> exact .pure (same m) trivial
    · exact .pure (same m) trivial
  refine .load ?_
  split
  · refine .bind .trans wrapping fun src m1 _ _ => .bind .trans (opening src m1)
      fun found m2 _ _ => ?_
    split
    · exact .bind .trans (putting _ m2) fun _ m3 _ _ => .pure (same m3) trivial
    · exact .pure (same m2) trivial
  · have loading : Ends (ChangesOnly c) (objectOf? v) m fun _ _ => True := by
      unfold objectOf?
      split
      · exact .load (.pure (same m) trivial)
      · exact .pure (same m) trivial
    refine .bind .trans loading fun o m1 _ _ => ?_
    split
    · exact .bind .trans (putting _ m1) fun _ m2 _ _ => .pure (same m2) trivial
    · exact .fail (same m1)
  · exact .fail (same m)

lemma execute_reference (cell : m.IsCell c) (found : lookUp place y m = .ok (.object c) m)
    (has : m.Has (place.slot z)) :
    execute place (steps + 3) (.assign z (.call (.name y) [])) m =
      .ok .next (m.bound (place.slot z) (.object c)) := by
  have evaluated : evaluate place (steps + 2) (.call (.name y) []) m = .ok (.object c) m := by
    obtain ⟨_, here⟩ := cell
    exact (bind_ok found).trans (call_cell here)
  exact (bind_ok evaluated).trans (bind_ok (bindName_eq has _))

/-- For programs whose declarations make what they bind: wherever the program gets to, two different
vars never have the same cell, and assigning to one of them leaves what the other one has as it
is. For every program, a decl that only names a variable lets both have one cell. -/
theorem declared_variables_apart (role : String → Role)
    (known : ∀ x v, Library.exported? x = some v → role x = .library) (program : List Stmt)
    (tame : areTame role [] false program = true) :
    (∀ calls place body m, Reached program calls place body m →
      ∀ (s t : Slot) (c d : Nat) (o : Object), s.Counts calls → t.Counts calls →
        ¬ m.SameVariable s t → m.slot? s = some (.object c) → m.IsCell c →
        m.slot? t = some (.object d) → m.store.get? d = some o →
        c ≠ d ∧ ∀ v, Ends (fun _ m' => m'.store.get? d = some o) (assign (.object c) v) m
          fun _ _ => True) ∧
    ∀ (place : Run.Place) (m : Machine) (y z : String) (c steps : Nat), m.IsCell c →
      lookUp place y m = .ok (.object c) m → m.Has (place.slot z) →
        ∃ m', execute place (steps + 3) (.assign z (.call (.name y) [])) m = .ok .next m' ∧
          m'.slot? (place.slot z) = some (.object c) := by
  refine ⟨?_, ?_⟩
  · intro calls place body m reached s t c d o counts counts' different bound cell bound' found
    obtain ⟨mine, kept⟩ := reached.kept known tame
    have apart : c ≠ d := by
      rintro rfl
      exact different (kept.separated.apart s t c counts counts' cell bound bound')
    refine ⟨apart, fun v => ?_⟩
    exact (ends_assign_only c v m).imp (fun m' only => only d o apart found) fun _ _ _ => id
  · intro place m y z c steps cell found has
    exact ⟨_, execute_reference steps cell found has, slot?_bound_self has⟩

end

/-- The variable is a cell with the number, as a test that can be run. -/
def hasNumber (m : Machine) (s : Slot) (c : Nat) (n : Int) : Bool :=
  match m.slot? s, m.store.get? c with
  | some (.object d), some (.cell (.int k)) => c == d && k == n
  | _, _ => false

lemma of_hasNumber (m s c n) (test : hasNumber m s c n := by decide +kernel) :
    m.slot? s = some (.object c) ∧ m.store.get? c = some (.cell (.int n)) := by
  unfold hasNumber at test
  split at test
  · simp_all
  · cases test

def newCell (n : Int) : Expr := .call (.name "m") [.constant (.int n)]

/-- The initialiser calls a routine with another variable, and the routine returns one of its
own. -/
def nextProgram : List Stmt :=
  [.importAll "PLHELPER",
    .function "NEXT" ["P"] false
      [.assign "A" (.binary (.call (.name "P") []) .add (newCell 1)),
        .returnValue (some (.call (.name "A") []))],
    .assign "X" (newCell 1), .assign "Y" (.call (.name "NEXT") [.call (.name "X") []]),
    .update (.name "Y") (newCell 5)]

def nextRole (name : String) : Role :=
  if (Library.exported? name).isSome then .library
  else if name = "NEXT" then .routine else .free

lemma exported_nextRole (x : String) (v) (exported : Library.exported? x = some v) :
    nextRole x = .library := by
  rw [nextRole, exported]
  rfl

theorem next_apart :
    areTame nextRole [] false nextProgram = true ∧
    (outcome 20 nextProgram).slot? (.global "X") = some (.object 2) ∧
    (outcome 20 nextProgram).slot? (.global "Y") = some (.object 5) ∧
    (outcome 20 nextProgram).store.get? 2 = some (.cell (.int 1)) ∧
    (outcome 20 nextProgram).store.get? 5 = some (.cell (.int 5)) ∧
    (5 : Nat) ≠ 2 ∧
    ∀ v, Ends (fun _ m' => m'.store.get? 2 = some (.cell (.int 1))) (assign (.object 5) v)
      (outcome 20 nextProgram) fun _ _ => True := by
  have tame : areTame nextRole [] false nextProgram = true := by decide
  obtain ⟨first, old⟩ := of_hasNumber (outcome 20 nextProgram) (.global "X") 2 1
  obtain ⟨second, new⟩ := of_hasNumber (outcome 20 nextProgram) (.global "Y") 5 5
  have different : ¬ (outcome 20 nextProgram).SameVariable (.global "Y") (.global "X") :=
    fun same => absurd (same.eq_of_not_package (by simp)) (by decide)
  exact ⟨tame, first, second, old, new,
    (declared_variables_apart nextRole exported_nextRole nextProgram tame).1 _ _ _ _
      (reached_outcome 20 nextProgram) (.global "Y") (.global "X") 5 2 _ trivial trivial different
      second ⟨_, new⟩ first old⟩

def referenceProgram : List Stmt :=
  [.importAll "PLHELPER", .assign "X" (newCell 1), .assign "Y" (.call (.name "X") []),
    .update (.name "Y") (newCell 2)]

theorem reference_shared :
    Reached referenceProgram [] {} referenceProgram (outcome 12 referenceProgram) ∧
    ¬ (outcome 12 referenceProgram).SameVariable (.global "X") (.global "Y") ∧
    (outcome 12 referenceProgram).slot? (.global "X") = some (.object 1) ∧
    (outcome 12 referenceProgram).slot? (.global "Y") = some (.object 1) ∧
    (outcome 12 referenceProgram).store.get? 1 = some (.cell (.int 2)) := by
  refine ⟨reached_outcome 12 referenceProgram, fun same => ?_, by rfl, by rfl, by rfl⟩
  exact absurd (same.eq_of_not_package (by simp)) (by decide)

end Run
end BlockScript
