import BlockScript.Proofs.LibraryEffects
import BlockScript.Session

/-!
No cell holds a cell. A value that is put into a cell is taken out of its own cell first, and this
is so for all that a session can do with the library: what is done in one step leaves no cell in a
cell if there was none, so no number of steps brings one about.
-/

namespace BlockScript

open Eval Machine Library

/-- No cell holds a cell, and what a cell holds is there. -/
def Machine.IsFlat (m : Machine) : Prop :=
  ∀ a c : Nat, m.store.get? a = some (.cell (.object c)) → c < m.store.size ∧ ¬ m.IsCell c

/-- There is no program on the machine. -/
def Machine.IsIdle (m : Machine) : Prop :=
  ∀ (a : Nat) (o : Object), m.store.get? a = some o → ¬ o.IsOfProgram

structure Machine.KeepsFlat (m m' : Machine) : Prop where
  follows : m.Follows m'
  flat : m.IsFlat → m'.IsFlat

namespace Machine

variable {m m' m'' : Machine}

lemma IsIdle.follow (idle : m.IsIdle) (follows : m.Follows m') : m'.IsIdle := by
  intro a o found program
  exact idle a o ((follows.get?_program program).1 found) program

lemma IsFlat.bare (flat : m.IsFlat) (contains : m.Contains v) {c : Nat} (is : v = .object c) :
    c < m.store.size ∧ ¬ m.IsCell c := by
  subst is
  cases contains with
  | inl held =>
    obtain ⟨a, found⟩ := held
    exact flat a c found
  | inr bare => exact bare c rfl

lemma IsFlat.unwrap (flat : m.IsFlat) (v) :
    ∃ w, Eval.unwrap v m = .ok w m ∧ cell? w m = .ok none m := by
  have bare {w} (other : ∀ c, w = .object c → ¬ m.IsCell c) : cell? w m = .ok none m := by
    cases w with
    | object c =>
      rw [cell?, bind_ok (load?_eq m c)]
      cases found : m.store.get? c with
      | none => rfl
      | some o =>
        cases o with
        | cell content => exact absurd ⟨content, found⟩ (other c rfl)
        | _ => rfl
    | _ => rfl
  by_cases cell : ∃ a, v = .object a ∧ m.IsCell a
  · obtain ⟨a, rfl, content, found⟩ := cell
    refine ⟨content, unwrap_cell found, bare fun c is => ?_⟩
    exact (flat.bare (.inl ⟨a, found⟩) is).2
  · have other := bare fun c is isCell => cell ⟨c, is, isCell⟩
    refine ⟨v, ?_, other⟩
    exact bind_ok other

namespace KeepsFlat

lemma refl (m) : KeepsFlat m m := ⟨.refl m, id⟩

lemma trans (first : KeepsFlat m m') (second : KeepsFlat m' m'') : KeepsFlat m m'' :=
  ⟨first.follows.trans second.follows, fun flat => second.flat (first.flat flat)⟩

lemma of_cells (follows : m.Follows m')
    (cells : ∀ (a : Nat) v, m'.store.get? a = some (.cell v) → m.Contains v) : KeepsFlat m m' := by
  constructor
  · exact follows
  · intro flat a c found
    obtain ⟨small, other⟩ := flat.bare (cells a _ found) rfl
    have larger := follows.size_le
    constructor
    · omega
    · rwa [follows.isCell small]

lemma of_store (follows : m.Follows m') (store : m'.store = m.store) : KeepsFlat m m' := by
  refine of_cells follows fun a v found => .inl ⟨a, ?_⟩
  rwa [store] at found

lemma push (m) (other : ¬ o.IsOfProgram)
    (contains : ∀ v, o = .cell v → m.Contains v) : KeepsFlat m (m.push o) := by
  refine of_cells (.push m other) fun a v found => ?_
  obtain old | ⟨-, is⟩ := get?_push_eq_some found
  · exact .inl ⟨a, old⟩
  · exact contains v is.symm

lemma put (found : m.store.get? a = some old) (same : o.outline = old.outline)
    (contains : ∀ v, o = .cell v → m.Contains v) : KeepsFlat m (m.put a o) := by
  refine of_cells (.put found same) fun b v held => ?_
  obtain ⟨is, -⟩ | held := get?_put_cases held
  · exact contains v is.symm
  · exact .inl ⟨b, held⟩

lemma put_other (found : m.store.get? a = some old) (other : ¬ old.IsCell)
    (same : o.outline = old.outline) : KeepsFlat m (m.put a o) := by
  refine put found same fun v is => ?_
  subst is
  obtain ⟨w, rfl⟩ := Object.outline_eq_cell same.symm
  exact absurd trivial other

end KeepsFlat

instance : Working KeepsFlat where
  follows := KeepsFlat.follows
  refl := .refl
  trans := .trans
  push m o other := by
    refine .push m (Object.not_isOfProgram other) fun v is => ?_
    subst is
    exact absurd trivial other
  pushCell contains := by
    refine .push _ id fun v is => ?_
    cases is
    exact contains
  pushQuery m o query := by
    refine .push m query.not_isOfProgram fun v is => ?_
    subst is
    exact query.elim
  addField {m a fields name} found _ := by
    have kept : (m.push (.cell .null)).store.get? a = some (.record fields) :=
      get?_pushed found
    have pushed : KeepsFlat m (m.push (.cell .null)) := by
      refine .push m id fun v is => ?_
      cases is
      exact .inr nofun
    exact pushed.trans (.put_other kept id rfl)
  putValues {_ _ old _} found holds same := by
    refine .put_other found (fun cell => ?_) same
    cases old <;> first | exact cell | exact holds
  putCell cell contains := by
    obtain ⟨w, found⟩ := cell
    refine .put found rfl fun v is => ?_
    cases is
    exact contains
  putAnswer {_ _ old _} found answer same := by
    refine .put_other found (fun cell => ?_) same
    cases old <;> first | exact cell | exact answer
  put found other same := .put_other found other same
  rest _ _ _ := .of_store (.of_same rfl rfl) rfl
  move _ _ _ _ := .of_store (.of_same rfl rfl) rfl
  note store globals _ := .of_store (.of_same globals store) store

structure StaysFlat (m m' : Machine) : Prop where
  start : m.IsFlat ∧ m.IsIdle
  follows : m.Follows m'
  flat : m'.IsFlat

namespace StaysFlat

lemma refl (flat : m.IsFlat) (idle : m.IsIdle) : StaysFlat m m := ⟨⟨flat, idle⟩, .refl m, flat⟩

lemma idle (stays : StaysFlat m m') : m'.IsIdle := stays.start.2.follow stays.follows

lemma tracks : Table.Tracks KeepsFlat StaysFlat where
  here stays := .refl stays.flat stays.idle
  trans first second := ⟨first.start, first.follows.trans second.follows, second.flat⟩
  follow stays keeps := ⟨stays.start, keeps.follows, keeps.flat stays.flat⟩

end StaysFlat
end Machine

namespace Session

open Machine.StaysFlat (tracks)

section

variable [Asking R] (regs : Bindings)

lemma keeps_resolve (name) : Keeps R (resolve name) := by
  unfold resolve
  split
  · exact .pure _
  · split
    · split
      · exact keeps_member _ _
      · exact .fail _
    · exact .fail _

lemma keeps_ofRegister (name) : Keeps R (ofRegister regs name) := by
  unfold ofRegister
  split
  · exact .pure _
  · exact .fail _

mutual
theorem keeps_read (x : Argument) : Keeps R (read regs x) := by
  match x with
  | .none | .bool _ | .int _ | .float _ | .text _ | .null => exact .pure _
  | .cell content => exact (keeps_read content).bind fun v => keeps_wrap v
  | .list items => exact (keeps_readAll items).bind fun _ => keeps_new id
  | .dict entries => exact (keeps_readEntries entries).bind fun _ => keeps_new id
  | .register name => exact keeps_ofRegister regs name
  | .named name => exact keeps_resolve name
  | .unknown => exact .fail _

theorem keeps_readAll (xs : List Argument) : Keeps R (readAll regs xs) := by
  match xs with
  | [] => exact .pure _
  | x :: rest => exact (keeps_read x).bind fun _ => (keeps_readAll rest).bind fun _ => .pure _

theorem keeps_readEntries (entries : List (String × Argument)) :
    Keeps R (readEntries regs entries) := by
  match entries with
  | [] => exact .pure _
  | (_, x) :: rest =>
    exact (keeps_read x).bind fun _ => (keeps_readEntries rest).bind fun _ => .pure _
end

end

def Upholds {α : Type} (x : Eval α) : Prop :=
  ∀ m, StaysFlat m m → Ends StaysFlat x m fun _ _ => True

lemma Upholds.of_keeps (keeps : Keeps KeepsFlat x) : Upholds x :=
  fun m start => tracks.lift start (keeps m)

lemma Upholds.bind (first : Upholds x) (next : ∀ v, Upholds (f v)) : Upholds (x >>= f) := by
  intro m start
  refine .bind tracks.trans (first m start) fun v m' stays _ => ?_
  exact next v m' (tracks.here stays)

lemma upholds_call (v args steps) : Upholds (Run.call steps v args) := by
  induction steps generalizing v args with
  | zero =>
    intro m start
    exact .throw start
  | succ steps ih =>
    intro m start
    have other := ends_callValue tracks (fun v args m start => ih v args m start) v args start
    unfold Run.call
    cases v with
    | object a =>
      refine .load ?_
      split
      case _ f found => exact absurd trivial (start.idle a _ found)
      · exact other
    | _ => exact other

lemma upholds_gathered (v) : Upholds (gathered v) := by
  unfold gathered
  split
  · refine .bind (.of_keeps (keeps_rangeBounds _ _)) fun bounds => .of_keeps ?_
    exact .bind (.mapM (fun i => keeps_wrap _) _) fun _ => keeps_new id
  · exact .of_keeps (.pure _)

lemma upholds_answer (f : Value) (args : List Argument) : Upholds (do
    gathered (← call f (← readAll regs args))) := by
  refine .bind (.of_keeps (keeps_readAll regs args)) fun values => ?_
  exact .bind (upholds_call f values granted) fun v => upholds_gathered v

lemma upholds_getItem (v index) : Upholds (getItem call v index) :=
  fun _ start => ends_getItem tracks
    (fun v args m start => upholds_call v args granted m start) v index start

lemma upholds_setItem (target index v) : Upholds (setItem call target index v) :=
  fun _ start => ends_setItem tracks
    (fun v args m start => upholds_call v args granted m start) target index v start

lemma keeps_binary (op : Binary) (a b : Value) : Keeps KeepsFlat (binary op a b) := by
  cases op with
  | comparison op => exact (gives_compare op a b).keeps
  | arithmetic op => exact (gives_calculate op a b).keeps
  | mod => exact (gives_mod a b).keeps

lemma upholds_unary (op : Unary) (v) : Upholds (unary op v) := by
  cases op with
  | neg => exact .of_keeps (gives_neg v).keeps
  | str => exact .of_keeps (.bind (keeps_text v) fun _ => .pure _)
  | bool => exact .of_keeps (.bind (keeps_truth v) fun _ => .pure _)
  | call => exact .bind (upholds_call v [] granted) fun w => upholds_gathered w
  | index =>
    refine .of_keeps (.bind (keeps_toPosition v) fun place => ?_)
    split
    · exact .pure _
    · exact .fail _
  | keys =>
    refine .bind (.of_keeps (keeps_objectOf? v)) fun o => ?_
    split
    · exact .of_keeps (keeps_new id)
    · refine .bind (.of_keeps (keeps_member v "keys")) fun f => ?_
      refine .bind (upholds_call f [] granted) fun w => .of_keeps ?_
      exact .bind (keeps_toItems w) fun _ => keeps_new id
  | hash =>
    refine .of_keeps (.bind (keeps_isKey v) fun isKey => ?_)
    split
    · exact .pure _
    · exact .fail _

def Action.member? : Action → Option String
  | .setMember name _ | .assignMember name _ => some name
  | _ => none

def Step.Spares (step : Step) (registers : Bindings) (m : Machine) : Prop :=
  step.action.member? = some "value" →
    ∀ c : Nat, registers.get? step.register = some (.object c) →
      c < m.store.size ∧ ¬ m.IsCell c

lemma ends_setMember (stays : StaysFlat m m')
    (other : mem = "value" → ∀ c, target = .object c → c < m.store.size ∧ ¬ m.IsCell c) :
    Ends StaysFlat (Library.setMember target mem v) m' fun _ _ => True := by
  refine tracks.lift (tracks.here stays) (Library.ends_setMember ?_ ?_)
  · intro a p _ found
    exact stays.idle a _ found trivial
  · intro a is cell named
    obtain ⟨small, bare⟩ := other named a is
    exact absurd ((stays.follows.isCell small).1 cell) bare

lemma ends_ofRegister (start : StaysFlat m m) : Ends StaysFlat (ofRegister regs name) m fun v m' =>
      m' = m ∧ regs.get? name = some v := by
  unfold ofRegister
  split
  case _ v known => exact .pure start ⟨rfl, known⟩
  · exact .fail start

lemma ends_perform (action : Action) (spares : Step.Spares ⟨name, action⟩ regs m)
    (start : StaysFlat m m) :
    Ends StaysFlat (perform regs name action) m fun _ _ => True := by
  have reads (x) : Upholds (read regs x) := .of_keeps (keeps_read regs x)
  have takes : Upholds (ofRegister regs name) := .of_keeps (keeps_ofRegister regs name)
  have uses (v mem) : Upholds (member v mem) :=
    .of_keeps (keeps_member v mem)
  cases action with
  | value x => exact reads x m start
  | call routine xs =>
    exact Upholds.bind (.of_keeps (keeps_resolve routine)) (fun f => upholds_answer f xs) m start
  | callMember x mem xs =>
    exact Upholds.bind (reads x) (fun v => .bind (uses v mem) fun f => upholds_answer f xs) m start
  | apply x xs => exact Upholds.bind (reads x) (fun f => upholds_answer f xs) m start
  | binary op x y =>
    exact Upholds.bind (reads x) (fun a => .bind (reads y) fun b => .of_keeps (keeps_binary op a b))
      m start
  | unary op x => exact Upholds.bind (reads x) (fun v => upholds_unary op v) m start
  | assign x =>
    exact Upholds.bind takes (fun target => .bind (reads x) fun v =>
      .of_keeps (keeps_assign target v)) m start
  | item x index =>
    exact Upholds.bind (reads x) (fun v => .bind (reads index) fun i => upholds_getItem v i) m start
  | setItem index x =>
    refine Upholds.bind takes (fun target => .bind (reads index) fun i => .bind (reads x) fun v => ?_)
      m start
    exact .bind (upholds_setItem target i v) fun _ => .of_keeps (.pure _)
  | assignItem index x =>
    refine Upholds.bind takes (fun target => .bind (reads index) fun i =>
      .bind (upholds_getItem target i) fun old => .bind (reads x) fun v => ?_) m start
    refine .bind (.of_keeps (keeps_assign old v)) fun w => ?_
    exact .bind (upholds_setItem target i w) fun _ => .of_keeps (.pure _)
  | member x mem => exact Upholds.bind (reads x) (fun v => uses v mem) m start
  | setMember mem x =>
    refine .bind tracks.trans (ends_ofRegister start) ?_
    rintro target _ - ⟨rfl, known⟩
    refine .bind tracks.trans (reads x _ start) fun v m1 first _ => ?_
    have set := ends_setMember (v := v) first (fun named c is => spares (congrArg some named) c
      (is ▸ known))
    exact .bind tracks.trans set fun _ m2 second _ => .pure (tracks.here second) trivial
  | assignMember mem x =>
    refine .bind tracks.trans (ends_ofRegister start) ?_
    rintro target _ - ⟨rfl, known⟩
    refine .bind tracks.trans (uses target mem _ start) fun old m1 first _ => ?_
    refine .bind tracks.trans (reads x m1 (tracks.here first)) fun v m2 second _ => ?_
    refine .bind tracks.trans (Upholds.of_keeps (keeps_assign old v) m2 (tracks.here second))
      fun w m3 third _ => ?_
    have later := tracks.trans (tracks.trans first second) third
    have set := ends_setMember (v := w) later (fun named c is => spares (congrArg some named) c
      (is ▸ known))
    exact .bind tracks.trans set fun _ m4 fourth _ => .pure (tracks.here fourth) trivial
  | unknown => exact .fail start

/-- No step sets the member of a cell by which the cell can be given any value. -/
def Spares (registers : Bindings) (m : Machine) : List Step → Prop
  | [] => True
  | step :: rest =>
    let fresh := { m with printed := [], database := { m.database with entries := [] } }
    step.Spares registers fresh ∧
      match (perform registers step.register step.action).run fresh with
      | .ok v after => Spares (registers.set step.register v) after rest
      | .error _ after => Spares registers after rest

lemma outcomes_flat (regs : Bindings) (m) (steps : List Step)
    (start : StaysFlat m m) (spares : Spares regs m steps) :
    (outcomes regs m steps).2.IsFlat := by
  induction steps generalizing regs m with
  | nil => exact start.flat
  | cons step rest ih =>
    obtain ⟨here, later⟩ := spares
    have fresh : StaysFlat { m with printed := [], database := { m.database with entries := [] } }
        { m with printed := [], database := { m.database with entries := [] } } :=
      .refl start.flat start.idle
    have ends := ends_perform step.action here fresh
    unfold Ends at ends
    unfold outcomes
    dsimp only [EStateM.run] at later ⊢
    split at ends
    case _ v after performed =>
      rw [performed] at later ⊢
      exact ih _ after (tracks.here ends.1) later
    case _ stop after performed =>
      rw [performed] at later ⊢
      exact ih _ after (tracks.here ends) later

/-- Whatever a session does with the library, step after step and whether steps fail or not, no cell
ever holds a cell if none did at the start. So what a value is taken out of is no cell again, for
every value there is. -/
theorem cells_never_nest {registers : Bindings} {m : Machine} {steps : List Step}
    (flat : m.IsFlat) (idle : m.IsIdle) (spares : Spares registers m steps) :
    (outcomes registers m steps).2.IsFlat ∧
      ∀ v, ∃ w, unwrap v (outcomes registers m steps).2 = .ok w (outcomes registers m steps).2 ∧
        cell? w (outcomes registers m steps).2 = .ok none (outcomes registers m steps).2 := by
  have last := outcomes_flat registers m steps (.refl flat idle) spares
  exact ⟨last, fun v => last.unwrap v⟩

/-- A cell is put into a cell and into a record, the record into another cell, and that cell is
assigned to the first one. -/
def nestingSteps : List Step :=
  [⟨"x", .value (.cell (.cell (.int 5)))⟩, ⟨"r", .setMember "value" (.register "x")⟩,
    ⟨"y", .value (.cell (.register "r"))⟩, ⟨"x", .assign (.register "y")⟩]

def recordMachine : Machine := { store := ⟨#[.record []]⟩ }

/-- The two cells hold the record, which holds one of them, and no cell holds a cell. -/
theorem nesting_steps_flat :
    (outcomes [("r", .object 0)] recordMachine nestingSteps).2.IsFlat ∧
      (outcomes [("r", .object 0)] recordMachine nestingSteps).2.store =
        ⟨#[.record [("value", .object 1)], .cell (.object 0), .cell (.object 0)]⟩ := by
  have only {a} {o} (found : recordMachine.store.get? a = some o) :
      o = .record [] := by
    obtain rfl : a = 0 := Nat.lt_one_iff.1 (get?_lt found)
    exact (Option.some.inj found).symm
  have flat : recordMachine.IsFlat := by
    intro a c found
    cases only found
  have idle : recordMachine.IsIdle := by
    intro a o found
    rw [only found]
    exact id
  have spares : Spares [("r", .object 0)] recordMachine nestingSteps := by
    refine ⟨nofun, ?_, nofun, nofun, trivial⟩
    intro _ c is
    cases is
    constructor
    · decide
    · rintro ⟨v, cell⟩
      cases cell
  exact ⟨(cells_never_nest flat idle spares).1, rfl⟩

end Session
end BlockScript
