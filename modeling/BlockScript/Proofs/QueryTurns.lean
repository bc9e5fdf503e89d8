import BlockScript.Proofs.Binding
import BlockScript.Proofs.LibraryEffects

/-!
What operations on cursors and mocks do to a machine. Most of what they do leaves cursors,
executions and mocks alone; the rest comes down to a few turns, such as that an execution takes a
mock which waits, or that a row is drawn from the mock of a cursor.
-/

namespace BlockScript

open Eval Machine Asking Connect Object

def Object.IsCollection : Object → Prop
  | .list _ | .tuple _ | .dict _ => True
  | _ => False

def Object.IsIdle : Object → Prop
  | .cursor c => c.execution = none
  | .execution x => x.mock = none
  | .mock w => w.rows = none
  | _ => False

lemma Object.IsIdle.isOfQuery {o : Object} (idle : o.IsIdle) : o.IsOfQuery := by
  cases o <;> trivial

lemma Object.isOfQuery_outline (o : Object) : o.outline.IsOfQuery ↔ o.IsOfQuery := by
  cases o <;> rfl

namespace Machine

def withMocks (m : Machine) (mocks : List (Value × Address)) : Machine :=
  { m with database := { m.database with mocks } }

def KeepsCollections (m m' : Machine) : Prop :=
  ∀ (a : Nat) (o : Object), o.IsCollection → m.store.get? a = some o → m'.store.get? a = some o

/-- Cursors, executions and mocks stay as they are, and none is made. -/
structure KeepsQueries (free : Nat → Prop) (m m' : Machine) : Prop where
  follows : m.Follows m'
  query {a : Nat} {o : Object} :
    o.IsOfQuery → (m'.store.get? a = some o ↔ m.store.get? a = some o)
  collections : m.KeepsCollections m'
  cell {a : Nat} {v : Value} : ¬ free a →
    m.store.get? a = some (.cell v) → m'.store.get? a = some (.cell v)
  mocks : m'.database.mocks = m.database.mocks

namespace KeepsQueries

lemma of_store (store : m'.store = m.store) (globals : m'.globals = m.globals)
    (mocks : m'.database.mocks = m.database.mocks) : KeepsQueries free m m' where
  follows := .of_same globals store
  query _ := by rw [store]
  collections _ _ _ found := by rwa [store]
  cell _ found := by rwa [store]
  mocks := mocks

lemma refl (m) : KeepsQueries free m m := of_store rfl rfl rfl

lemma trans (first : KeepsQueries free m m') (second : KeepsQueries free m' m'') :
    KeepsQueries free m m'' where
  follows := first.follows.trans second.follows
  query is := (second.query is).trans (first.query is)
  collections a o is found := second.collections a o is (first.collections a o is found)
  cell fixed found := second.cell fixed (first.cell fixed found)
  mocks := second.mocks.trans first.mocks

lemma mono (keeps : KeepsQueries free m m') (wider : ∀ a, free a → free' a) :
    KeepsQueries free' m m' where
  follows := keeps.follows
  query := keeps.query
  collections := keeps.collections
  cell fixed := keeps.cell fun isFree => fixed (wider _ isFree)
  mocks := keeps.mocks

lemma kept (keeps : KeepsQueries free m m') (found : m.store.get? a = some o)
    (is : o.IsOfQuery) : m'.store.get? a = some o := (keeps.query is).2 found

lemma was (keeps : KeepsQueries free m m') (found : m'.store.get? a = some o)
    (is : o.IsOfQuery) : m.store.get? a = some o := (keeps.query is).1 found

lemma push (m) (other : ¬ o.IsOfProgram) (unasked : ¬ o.IsOfQuery) :
    KeepsQueries free m (m.push o) where
  follows := .push m other
  query {a o'} is := by
    constructor
    · intro found
      obtain old | ⟨-, rfl⟩ := get?_push_eq_some found
      · exact old
      · exact absurd is unasked
    · intro found
      rw [get?_push_of_lt m o (get?_lt found), found]
  collections _ _ _ found := get?_pushed found
  cell _ found := get?_pushed found
  mocks := rfl

lemma put (found : m.store.get? a = some old) (same : o.outline = old.outline)
    (notQuery : ¬ old.IsOfQuery) (notCollection : ¬ old.IsCollection)
    (isFree : ∀ v, old = .cell v → free a) : KeepsQueries free m (m.put a o) where
  follows := .put found same
  query {b o'} is := by
    by_cases here : a = b
    · subst here
      rw [get?_put_self (get?_lt found), found]
      refine iff_of_false ?_ ?_
      · rintro ⟨⟩
        rw [← isOfQuery_outline, same, isOfQuery_outline] at is
        exact notQuery is
      · grind
    · rw [get?_put_of_ne here]
  collections b o' is found' := by
    have apart : a ≠ b := by grind
    rwa [get?_put_of_ne apart]
  cell {b v} fixed found' := by
    have apart : a ≠ b := by grind
    rwa [get?_put_of_ne apart]
  mocks := rfl

end KeepsQueries

instance {free : Nat → Prop} : Asking (KeepsQueries free) where
  follows := KeepsQueries.follows
  refl := .refl
  trans := .trans
  push m _ other := .push m (not_isOfProgram other) (not_isOfQuery other)
  pushCell _ := .push _ id id
  addField found _ := (KeepsQueries.push _ id id).trans (.put (get?_pushed found) rfl id id nofun)

/-- A value that stands for data: one that stands for itself, or a collection of such values. -/
inductive IsData (m : Machine) : Value → Prop
  | none : IsData m .none
  | bool (b : Bool) : IsData m (.bool b)
  | int (n : Int) : IsData m (.int n)
  | float (x : Float) : IsData m (.float x)
  | text (s : String) : IsData m (.text s)
  | list {r : Address} {items : List Value} (found : m.store.get? r = some (.list items))
      (parts : ∀ v ∈ items, IsData m v) : IsData m (.object r)
  | tuple {r : Address} {items : List Value} (found : m.store.get? r = some (.tuple items))
      (parts : ∀ v ∈ items, IsData m v) : IsData m (.object r)
  | dict {r : Address} {entries : List (Value × Value)}
      (found : m.store.get? r = some (.dict entries))
      (parts : ∀ e ∈ entries, IsData m e.1) : IsData m (.object r)

lemma IsData.keep {m : Machine} (data : m.IsData v) (kept : m.KeepsCollections m') :
    m'.IsData v := by
  induction data with
  | none => exact .none
  | bool b => exact .bool b
  | int n => exact .int n
  | float x => exact .float x
  | text s => exact .text s
  | list found _ ih => exact .list (kept _ _ trivial found) ih
  | tuple found _ ih => exact .tuple (kept _ _ trivial found) ih
  | dict found _ ih => exact .dict (kept _ _ trivial found) ih

/-- One thing that an operation does to cursors and mocks. -/
inductive Turn (on free : Nat → Prop) (m : Machine) : Machine → Prop
  | aside {m' : Machine} (keeps : m.KeepsQueries free m') : Turn on free m m'
  | make {o : Object} (idle : o.IsIdle) : Turn on free m (m.push o)
  | attach {a : Nat} {c : Cursor} {x : Execution} (isOn : on a)
      (cursor : m.store.get? a = some (.cursor c)) (empty : x.mock = none) :
      Turn on free m
        ((m.push (.execution x)).put a (.cursor { c with execution := some m.store.size }))
  | alter {a : Nat} {c d : Cursor} (isOn : on a) (cursor : m.store.get? a = some (.cursor c))
      (closed : d.execution = c.execution ∨ d.execution = none) :
      Turn on free m (m.put a (.cursor d))
  | rebind {e : Nat} {x : Execution} (execution : m.store.get? e = some (.execution x))
      (empty : x.mock = none) (binds : Bindings) : Turn on free m (m.put e (.execution { binds }))
  | drop {before after : List (Value × Address)} {w : Value × Address}
      (waits : m.database.mocks = before ++ w :: after) :
      Turn on free m (m.withMocks (before ++ after))
  | take {before after : List (Value × Address)} {s : String} {e k : Nat} {x x' : Execution}
      {w w' : Mock} (waits : m.database.mocks = before ++ (.text s, k) :: after)
      (mock : m.store.get? k = some (.mock w)) (rows : w'.rows = w.rows)
      (execution : m.store.get? e = some (.execution x)) (empty : x.mock = none)
      (taken : x'.mock = some k) :
      Turn on free m (((m.withMocks (before ++ after)).put k (.mock w')).put e (.execution x'))
  | draw {a e k : Nat} {c : Cursor} {x : Execution} {w : Mock} {row : Value} {rest : List Value}
      (isOn : on a) (cursor : m.store.get? a = some (.cursor c)) (attached : c.execution = some e)
      (execution : m.store.get? e = some (.execution x)) (taken : x.mock = some k)
      (mock : m.store.get? k = some (.mock w)) (rows : w.rows = some (row :: rest)) :
      Turn on free m (m.put k (.mock { w with rows := some rest }))
  | change {k : Nat} {w v : Mock} (isOn : on k) (mock : m.store.get? k = some (.mock w))
      (data : ∀ rows, v.rows = some rows → w.rows = some rows ∨ ∀ row ∈ rows, m.IsData row) :
      Turn on free m (m.put k (.mock v))

def Turns (on free : Nat → Prop) : Machine → Machine → Prop := Relation.ReflTransGen (Turn on free)

variable {m m' : Machine}

lemma get?_take {mocks : List (Value × Address)} (notExecution : e ≠ b) (notMock : k ≠ b) :
    (((m.withMocks mocks).put k o).put e o').store.get? b = m.store.get? b := by
  rw [get?_put_of_ne notExecution, get?_put_of_ne notMock]
  rfl

lemma Turn.follows (turn : Turn on free m m') : m.Follows m' := by
  cases turn with
  | aside keeps => exact keeps.follows
  | make idle => exact .push m idle.isOfQuery.not_isOfProgram
  | attach _ cursor => exact (Follows.push m id).trans (.put (get?_pushed cursor) rfl)
  | alter _ cursor => exact .put cursor rfl
  | rebind exec => exact .put exec rfl
  | drop => exact .of_same rfl rfl
  | @take before after s e k x x' w w' waits mock rows exec =>
    have taken : m.Follows (m.withMocks (before ++ after)) := .of_same rfl rfl
    have first : m.Follows ((m.withMocks (before ++ after)).put k (.mock w')) :=
      taken.trans (.put mock rfl)
    obtain ⟨o, found, outline⟩ := first.get? exec
    exact first.trans (.put found outline.symm)
  | draw _ _ _ _ _ mock => exact .put mock rfl
  | change _ mock => exact .put mock rfl

/-- What a turn can change: a cursor that it works on, an execution that has no mock, and a mock that
it works on, that waits, or that is drawn from for a cursor that it works on. -/
def MayChange (on : Nat → Prop) (m : Machine) (a : Nat) : Object → Prop
  | .cursor _ => on a
  | .execution x => x.mock = none
  | .mock _ => on a ∨ (∃ s, (.text s, a) ∈ m.database.mocks) ∨ ∃ b c e x, on b ∧
      m.store.get? b = some (.cursor c) ∧ c.execution = some e ∧
        m.store.get? e = some (.execution x) ∧ x.mock = some a
  | _ => False

lemma Turn.kept (turn : Turn on free m m') (found : m.store.get? a = some o)
    (fixed : ¬ MayChange on m a o)
    (aside : ∀ {m'}, m.KeepsQueries free m' → m'.store.get? a = some o) :
    m'.store.get? a = some o := by
  have apart {b} {old} (there : m.store.get? b = some old)
      (changed : MayChange on m b old) : b ≠ a := by
    rintro rfl
    grind
  have put {b} {old new} (there)
      (changed : MayChange on m b old) : (m.put b new).store.get? a = some o :=
    (get?_put_of_ne (apart there changed) m new).trans found
  cases turn with
  | aside keeps => exact aside keeps
  | make => exact get?_pushed found
  | attach isOn cursor =>
    rw [get?_put_of_ne (apart cursor isOn), get?_push_of_lt m _ (get?_lt found), found]
  | alter isOn cursor => exact put cursor isOn
  | rebind exec empty => exact put exec empty
  | drop => exact found
  | @take _ _ s _ k _ _ _ _ waits mock _ exec empty =>
    have listed : (.text s, k) ∈ m.database.mocks := waits ▸ mem_append_right _ mem_cons_self
    rw [get?_take (apart exec empty) (apart mock (.inr (.inl ⟨s, listed⟩))), found]
  | draw isOn cursor attached exec taken mock =>
    exact put mock (.inr (.inr ⟨_, _, _, _, isOn, cursor, attached, exec, taken⟩))
  | change isOn mock => exact put mock (.inl isOn)

lemma Turn.collections (turn : Turn on free m m') : m.KeepsCollections m' := by
  intro a o is found
  refine turn.kept found ?_ fun keeps => keeps.collections a o is found
  cases o <;> first | exact id | exact is.elim

lemma Turn.cell (turn : Turn on free m m') (fixed : ¬ free a)
    (found : m.store.get? a = some (.cell v)) : m'.store.get? a = some (.cell v) :=
  turn.kept found id fun keeps => keeps.cell fixed found

lemma Turns.cell (turns : Turns on free m m') (fixed : ¬ free a)
    (found : m.store.get? a = some (.cell v)) : m'.store.get? a = some (.cell v) := by
  induction turns with
  | refl => exact found
  | tail _ turn ih => exact turn.cell fixed ih

lemma Turns.collections (turns : Turns on free m m') : m.KeepsCollections m' := by
  induction turns with
  | refl => exact fun _ _ _ found => found
  | tail _ turn ih => exact fun a o is found => turn.collections a o is (ih a o is found)

lemma Turns.follows (turns : Turns on free m m') : m.Follows m' := by
  induction turns with
  | refl => exact .refl m
  | tail _ turn ih => exact ih.trans turn.follows

lemma Turns.of_turn (turn : Turn on free m m') : Turns on free m m' := .single turn

lemma Turns.aside (keeps : m.KeepsQueries free m') : Turns on free m m' := .single (.aside keeps)

instance : Asking (Turns on free) where
  follows := Turns.follows
  refl _ := .refl
  trans := Relation.ReflTransGen.trans
  push m _ other := .aside (Asking.push m other)
  pushCell contains := .aside (Asking.pushCell contains)
  addField found missing := .aside (Asking.addField found missing)

end Machine

namespace Eval

lemma Keeps.turns (keeps : Keeps (KeepsQueries free) x) (m) :
    Ends (Turns on free) x m fun _ m' => m.KeepsQueries free m' :=
  (keeps m).imp (fun _ kept => .aside kept) fun _ _ kept _ => kept

end Eval

namespace Query

variable {on free : Nat → Prop} {m : Machine}

lemma keeps_assign_free (isFree : ∀ c, target = .object c → free c) (v) :
    Keeps (KeepsQueries free) (assign target v) := fun m => by
  unfold assign
  split
  case _ a =>
    refine .load ?_
    split
    case _ content found =>
      refine .next (keeps_wrap v m) fun src m1 first _ => ?_
      refine .same (ends_cell? src m1) fun cell _ => ?_
      obtain ⟨o, now, outline⟩ := first.follows.get? found
      obtain ⟨w, rfl⟩ := outline_eq_cell outline
      cases cell with
      | none => exact .done trivial
      | some taken => exact .of_ok rfl (.put now rfl id id fun _ _ => isFree a rfl) trivial
    case _ fields found =>
      refine .next (.of_ok (Q := fun _ m' => m' = m) (objectOf?_eq v m) (refl m) rfl) ?_
      rintro o _ - rfl
      split
      · exact .of_ok rfl (.put found rfl id id nofun) trivial
      · exact .failed
    case _ => exact .failed
  case _ =>
    split
    · split
      · exact .failed
      · exact .done trivial
    · exact .failed

lemma keeps_distribute_free (row) (isFree : ∀ c, .object c ∈ targets → free c)
    (i) : Keeps (KeepsQueries free) (distribute row i targets) := by
  refine keeps_distribute_of row (fun target mem => keeps_assign_free ?_) i
  rintro c rfl
  exact isFree c mem

lemma keeps_top_queries : Keeps (KeepsQueries free) top := by
  have connects (target) :
      Keeps (KeepsQueries free) (onDatabase (·.connect target)) := fun m =>
    .of_ok rfl (.of_store rfl rfl rfl) trivial
  refine (keeps_start_of connects false).bind fun _ => .bind .get fun machine => ?_
  split
  · exact .pure _
  · exact .fail _

mutual
theorem ends_ofData (d : Data) (m) :
    Ends (KeepsQueries free) (ofData d) m fun v m' => m'.IsData v := by
  match d with
  | .none => exact .done .none
  | .bool b => exact .done (.bool b)
  | .int n => exact .done (.int n)
  | .float x => exact .done (.float x)
  | .text s => exact .done (.text s)
  | .list items =>
    refine .next (ends_ofDataList items m) fun vs m1 _ data => ?_
    have kept : KeepsQueries free m1 (m1.push (.list vs)) := .push m1 id id
    exact .of_ok (new_eq _ m1) kept
      (.list (get?_push_size m1 _) fun v mem => (data v mem).keep kept.collections)
  | .tuple items =>
    refine .next (ends_ofDataList items m) fun vs m1 _ data => ?_
    have kept : KeepsQueries free m1 (m1.push (.tuple vs)) := .push m1 id id
    exact .of_ok (new_eq _ m1) kept
      (.tuple (get?_push_size m1 _) fun v mem => (data v mem).keep kept.collections)
  | .dict entries =>
    refine .next (ends_ofDataEntries [] m nofun entries) fun es m1 _ data => ?_
    have kept : KeepsQueries free m1 (m1.push (.dict es)) := .push m1 id id
    exact .of_ok (new_eq _ m1) kept
      (.dict (get?_push_size m1 _) fun e mem => (data e mem).keep kept.collections)

theorem ends_ofDataList (ds : List Data) (m) :
    Ends (KeepsQueries free) (ofDataList ds) m fun vs m' => ∀ v ∈ vs, m'.IsData v := by
  match ds with
  | [] => exact .done nofun
  | d :: ds =>
    refine .next (ends_ofData d m) fun v m1 _ first => ?_
    refine .next (ends_ofDataList ds m1) fun vs m2 kept others => ?_
    refine .done fun w mem => ?_
    rcases mem_cons.1 mem with rfl | mem
    · exact first.keep kept.collections
    · exact others w mem

theorem ends_ofDataEntries (done : List (Value × Value)) (m)
    (data : ∀ e ∈ done, m.IsData e.1) (ds : List (Data × Data)) :
    Ends (KeepsQueries free) (ofDataEntries done ds) m fun es m' => ∀ e ∈ es, m'.IsData e.1 := by
  match ds with
  | [] => exact .done data
  | (k, d) :: ds =>
    refine .next (ends_ofData k m) fun key m1 first isData => ?_
    refine .next (ends_ofData d m1) fun v m2 second _ => ?_
    refine .next (ends_setEntry done key v m2) fun es m3 third keys => ?_
    refine ends_ofDataEntries es m3 (fun e mem => ?_) ds
    have kept := (second.trans third).collections
    rcases keys e mem with same | ⟨old, inside, same⟩
    · rw [same]
      exact isData.keep kept
    · rw [same]
      exact (data old inside).keep (first.trans (second.trans third)).collections
end

structure Taken (e k : Address) (m m' : Machine) : Prop where
  waited : ∃ before after s, m.database.mocks = before ++ (.text s, k) :: after ∧
    m'.database.mocks = before ++ after
  mock : ∃ w w', m.store.get? k = some (.mock w) ∧ m'.store.get? k = some (.mock w') ∧
    w'.rows = w.rows
  execution : ∃ x, m'.store.get? e = some (.execution x) ∧ x.mock = some k
  other : ∀ b : Nat, e ≠ b → k ≠ b → m'.store.get? b = m.store.get? b

lemma mockAt_cases (k m) : (∃ w, m.store.get? k = some (.mock w) ∧ mockAt k m = .ok w m) ∨
      ∃ stop, mockAt k m = .error stop m := by
  rw [mockAt, bind_ok (load?_eq m k)]
  generalize m.store.get? k = held
  rcases held with _ | o
  · exact .inr ⟨_, rfl⟩
  · cases o <;> first | exact .inl ⟨_, rfl, rfl⟩ | exact .inr ⟨_, rfl⟩

lemma ends_take {after : List (Value × Address)}
    (waits : m.database.mocks = before ++ (.text s, k) :: after)
    (execution : m.store.get? e = some (.execution x)) (empty : x.mock = none) (binds) :
    Ends (Turns on free) (do
      onDatabase ({ · with mocks := before ++ after })
      let w ← mockAt k
      put k (.mock { w with execution := some e })
      put e (.execution { mock := some k, rowCount := w.rowCount, binds })) m
      fun _ m' => Taken e k m m' := by
  rcases mockAt_cases k (m.withMocks (before ++ after)) with ⟨w, found, looked⟩ | ⟨stop, failed⟩
  · refine .of_ok (bind_ok looked) (.of_turn (.take waits found rfl execution empty rfl)) ?_
    have apart : e ≠ k := by
      rintro rfl
      cases execution.symm.trans found
    have small : e < ((m.withMocks (before ++ after)).put k
        (.mock { w with execution := some e })).store.size := by
      rw [size_put]
      exact get?_lt execution
    exact {
      waited := ⟨before, after, s, waits, rfl⟩
      mock := ⟨w, _, found, (get?_put_of_ne apart ..).trans (get?_put_self (get?_lt found) _), rfl⟩
      execution := ⟨_, get?_put_self small _, rfl⟩
      other := fun b notExecution notMock => get?_take notExecution notMock }
  · have dropped : onDatabase ({ · with mocks := before ++ after }) m =
        .ok () (m.withMocks (before ++ after)) := rfl
    exact .of_error ((bind_ok dropped).trans (bind_error failed)) (.of_turn (.drop waits))

lemma ends_execute_taken (execution : m.store.get? e = some (.execution x))
    (empty : x.mock = none) (conn : Nat) (query binds) :
    Ends (Turns on free) (execute conn e query binds) m fun _ m' => ∃ k, Taken e k m m' := by
  refine .go_on (bind_ok (put_eq e _ m)) (.of_turn (.rebind execution empty binds)) ?_
  have rebound := get?_put_self (get?_lt execution) (.execution { binds })
  have others {b} (apart) :
      (m.put e (.execution { binds })).store.get? b = m.store.get? b := get?_put_of_ne apart ..
  refine .next ((looks_snapshot query).ends _) ?_
  rintro shown _ - rfl
  refine .next ((Looks.mapM (fun b m => ?_) binds).ends _) ?_
  · exact ⟨_, bind_ok (looks_snapshot b.2 m).choose_spec⟩
  rintro values _ - rfl
  -- the log is all that changes before a mock is chosen
  refine .next (.of_ok (Q := fun _ m' => m'.store = (m.put e _).store ∧
    m'.database.mocks = m.database.mocks) rfl (.aside (.of_store rfl rfl rfl)) ⟨rfl, rfl⟩) ?_
  rintro _ m1 - ⟨store, mocks⟩
  rw [← store] at rebound
  simp only [← store] at others
  refine .go_on (bind_ok (unwrap_eq query m1)) (refl m1) ?_
  refine .go_on (bind_ok rfl) (refl m1) ?_
  refine .same (ends_choose _ m1.database.mocks m1) fun choice parts => ?_
  rcases choice with _ | ⟨k, left⟩
  · exact .failed
  obtain ⟨before, after, s, waits, rfl⟩ := parts k left rfl
  refine (ends_take waits rebound rfl binds).weaken fun _ m2 _ taken => ⟨k, ?_⟩
  obtain ⟨w, w', held, now, rows⟩ := taken.mock
  have apart : e ≠ k := by grind
  exact {
    waited := by rw [← mocks]; exact taken.waited
    mock := ⟨w, w', (others apart).symm.trans held, now, rows⟩
    execution := taken.execution
    other := fun b notExecution notMock =>
      (taken.other b notExecution notMock).trans (others notExecution) }

structure Opened (a e k : Address) (m m' : Machine) : Prop where
  later : m.store.size ≤ e
  cursor : ∃ c : Cursor, m.store.get? a = some (.cursor c) ∧
    m'.store.get? a = some (.cursor { c with execution := some e })
  execution : ∃ x, m'.store.get? e = some (.execution x) ∧ x.mock = some k
  mock : ∃ w w', m.store.get? k = some (.mock w) ∧ m'.store.get? k = some (.mock w') ∧
    w'.rows = w.rows
  waited : ∃ before after s, m.database.mocks = before ++ (.text s, k) :: after ∧
    m'.database.mocks = before ++ after
  others : ∀ (b : Nat) (x : Execution), e ≠ b → m'.store.get? b = some (.execution x) →
    m.store.get? b = some (.execution x)

lemma Taken.opened (kept : m.KeepsQueries free m1) (cursor : m.store.get? a = some (.cursor c))
    (taken : Taken m1.store.size k ((m1.push (.execution { binds })).put a
      (.cursor { c with execution := some m1.store.size })) m') :
    Opened a m1.store.size k m m' := by
  have small := get?_lt (kept.kept cursor trivial)
  have old {b} {o} (is : o.IsOfQuery) (notCursor : a ≠ b)
      (notExecution : m1.store.size ≠ b)
      (held : ((m1.push (.execution { binds })).put a
        (.cursor { c with execution := some m1.store.size })).store.get? b = some o) :
      m.store.get? b = some o := by
    have bound := get?_lt held
    rw [size_put, size_push] at bound
    rw [get?_put_of_ne notCursor, get?_push_of_lt _ _ (by omega)] at held
    exact kept.was held is
  obtain ⟨now, made⟩ := get?_push_put small (.execution { binds })
    (.cursor { c with execution := some m1.store.size })
  obtain ⟨w, w', held, held', rows⟩ := taken.mock
  have notCursor : k ≠ a := by
    rintro rfl
    cases held.symm.trans now
  have notExecution : m1.store.size ≠ k := by
    intro same
    grind
  exact {
    later := kept.follows.size_le
    cursor := ⟨c, cursor, (taken.other a (Nat.ne_of_gt small) notCursor).trans now⟩
    execution := taken.execution
    mock := ⟨w, w', old trivial notCursor.symm notExecution held, held', rows⟩
    waited := by rw [← kept.mocks]; exact taken.waited
    others := fun b x apart found => by
      have notMock : k ≠ b := by
        rintro rfl
        cases held'.symm.trans found
      rw [taken.other b apart notMock] at found
      refine old trivial ?_ apart found
      rintro rfl
      cases now.symm.trans found }

lemma ends_openWith (isOn : on a) (args locals m) :
    Ends (Turns on free) (openWith a args locals) m fun _ m' => ∃ e k, Opened a e k m m' := by
  refine .same (ends_cursorAt a m) fun c cursor => ?_
  refine .next ((keeps_bind c args locals).turns m) fun binds m1 _ first => ?_
  refine .next (keeps_top_queries.turns m1) fun conn m2 _ second => ?_
  have kept := first.trans second
  have found := kept.kept cursor trivial
  refine .go_on ((bind_ok rfl).trans (bind_ok rfl)) (.of_turn (.attach isOn found rfl)) ?_
  obtain ⟨-, made⟩ := get?_push_put (get?_lt found) (.execution { binds })
    (.cursor { c with execution := some m2.store.size })
  refine .next (ends_execute_taken made rfl conn.id c.query binds) ?_
  rintro _ m3 - ⟨k, taken⟩
  refine .same (ends_executionAt _ m3) fun x _ => ?_
  have opened := taken.opened kept cursor
  exact .of_ok rfl (.aside (.of_store rfl rfl rfl)) ⟨m2.store.size, k, { opened with }⟩

lemma ends_nextRow (isOn : on a) (cursor : m.store.get? a = some (.cursor c))
    (attached : c.execution = some e) (exec : m.store.get? e = some (.execution x)) :
    Ends (Turns on free) (nextRow x) m fun _ m' => m'.store.get? a = some (.cursor c) := by
  unfold nextRow
  split
  case _ => exact .failed
  case _ k taken =>
    refine .same (ends_mockAt k m) fun w mock => ?_
    split
    case _ row rest rows =>
      refine .of_ok rfl (.of_turn (.draw isOn cursor attached exec taken mock rows)) ?_
      have apart : k ≠ a := by grind
      exact (get?_put_of_ne apart ..).trans cursor
    case _ => exact .done cursor

lemma ends_fetch (isOn : on a) (isFree : ∀ c, .object c ∈ targets → free c) (m) :
    Ends (Turns on free) (fetch a targets) m fun _ _ => True := by
  refine .same (ends_cursorAt a m) fun c cursor => ?_
  split
  case _ => exact .failed
  case _ e attached =>
    refine .same (ends_executionAt e m) fun x exec => ?_
    refine .next (ends_nextRow isOn cursor attached exec) fun row m1 _ kept => ?_
    have rest (isFound : Bool) (m) : Ends (Turns on free) (do
        if isFound then distribute row 0 targets
        return Value.none) m fun _ _ => True := by
      cases isFound with
      | true =>
        refine .next ((keeps_distribute_free row isFree 0).turns m) fun _ m' _ _ => ?_
        exact .done trivial
      | false => exact .done trivial
    exact .go_on (bind_ok rfl) (.of_turn (.alter isOn kept (.inl rfl))) (rest _ _)

lemma ends_close (isOn : on a) (m) : Ends (Turns on free) (close a) m fun _ _ => True := by
  refine .same (ends_cursorAt a m) fun c cursor => ?_
  split
  · exact .fail_bind (refl m)
  · exact .of_ok rfl (.of_turn (.alter isOn cursor (.inr rfl))) trivial

lemma ends_makeCursor (query binds parameters m) :
    Ends (Turns on free) (allocate (.cursor { query, binds, parameters })) m
      fun a _ => m.store.size ≤ a :=
  .of_ok rfl (.of_turn (.make rfl)) (Nat.le_refl _)

section

variable (later : ∀ b : Nat, m.store.size ≤ b → on b)

include later

lemma ends_executeOnce (query binds locals) :
    Ends (Turns on free) (executeOnce query binds locals) m fun _ _ => True := by
  refine .next (keeps_new id m) fun params m1 first _ => ?_
  refine .next (ends_makeCursor _ _ _ m1) fun a m2 second made => ?_
  have isOn : on a := later a (Nat.le_trans (size_le first) made)
  refine .next (keeps_new id m2) fun args m3 _ _ => ?_
  refine .next (ends_openWith isOn args locals m3).discard fun _ m4 _ _ => ?_
  exact ends_close isOn m4

lemma ends_executeInto (query) (isFree : ∀ c, .object c ∈ targets → free c) :
    Ends (Turns on free) (executeInto query targets) m fun _ _ => True := by
  refine .next (keeps_new id m) fun binds m1 first _ => ?_
  refine .next (keeps_new id m1) fun params m2 second _ => ?_
  refine .next (ends_makeCursor _ _ _ m2) fun a m3 _ made => ?_
  have isOn : on a := later a (Nat.le_trans (size_le (trans first second)) made)
  refine .next (keeps_new id m3) fun args m4 _ _ => ?_
  refine .next (keeps_new id m4) fun locals m5 _ _ => ?_
  refine .next (ends_openWith isOn args locals m5).discard fun _ m6 _ _ => ?_
  split
  · exact ends_close isOn m6
  · refine .next (ends_fetch isOn isFree m6).discard fun _ m7 _ _ => ?_
    exact ends_close isOn m7

lemma ends_sysContext (isFree : ∀ c, m.store.size ≤ c → free c) (namespaceName parameter) :
    Ends (Turns on free) (sysContext namespaceName parameter) m fun _ _ => True := by
  refine .next (keeps_new id m) fun binds m1 first _ => ?_
  refine .next (keeps_new id m1) fun params m2 second _ => ?_
  refine .next (ends_makeCursor _ _ _ m2) fun a m3 third made => ?_
  have isOn : on a := later a (Nat.le_trans (size_le (trans first second)) made)
  refine .next (keeps_new id m3) fun args m4 fourth _ => ?_
  refine .next (keeps_new id m4) fun locals m5 fifth _ => ?_
  refine .next (ends_openWith isOn args locals m5).discard fun _ m6 sixth _ => ?_
  have grown : m.store.size ≤ m6.store.size := size_le (trans first (trans
    second (trans third (trans fourth (trans fifth sixth)))))
  -- what is fetched goes into a new cell
  refine .go_on (bind_ok rfl) (pushCell (.inr nofun)) ?_
  refine .next (ends_fetch isOn ?_ _).discard fun _ m7 _ _ => ?_
  · rintro c mem
    grind
  refine .next (ends_close isOn m7).discard fun _ m8 _ _ => ?_
  exact .done trivial

end

lemma ends_dataOf (content m) :
    Ends (Turns on free) (dataOf content) m fun v m' => m'.IsData v := by
  unfold dataOf
  split
  · split
    · exact (ends_ofData _ m).imp (fun _ kept => .aside kept) fun _ _ _ => id
    iterate 3 exact .failed
  · exact .failed

lemma ends_toItems [Asking R] (data : m.IsData v) :
    Ends R (toItems v) m fun items m' => m' = m ∧ ∀ w ∈ items, m.IsData w := by
  cases data with
  | none | bool | int | float => exact .failed
  | text s =>
    refine .done ⟨rfl, fun w mem => ?_⟩
    obtain ⟨c, -, rfl⟩ := mem_map.1 mem
    exact .text _
  | list found parts | tuple found parts =>
    refine .go_on (bind_ok (objectOf?_object found)) (refl m) ?_
    exact .done ⟨rfl, parts⟩
  | dict found parts =>
    refine .go_on (bind_ok (objectOf?_object found)) (refl m) ?_
    refine .done ⟨rfl, fun w mem => ?_⟩
    obtain ⟨e, inside, rfl⟩ := mem_map.1 mem
    exact parts e inside

lemma ends_returns (isOn : on a) (content m) :
    Ends (Turns on free) (returns a content) m fun _ _ => True := by
  refine .next (ends_dataOf content m) fun v m1 _ data => ?_
  refine .same (ends_toItems data) fun rows data => ?_
  refine .same (ends_mockAt a m1) fun w mock => ?_
  refine .of_ok rfl (.of_turn (.change isOn mock ?_)) trivial
  rintro _ ⟨⟩
  exact .inr data

lemma ends_setRowCount (isOn : on a) (rowCount m) :
    Ends (Turns on free) (setRowCount a rowCount) m fun _ _ => True := by
  refine .same (ends_mockAt a m) fun w mock => ?_
  exact .of_ok rfl (.of_turn (.change isOn mock fun _ rows => .inl rows)) trivial

/-- A new mock begins to wait under a pattern: behind the others, or in the place of those that
waited under that pattern. -/
inductive Enters (pattern : Value) (k : Address) (mocks : List (Value × Address)) :
    List (Value × Address) → Prop
  | last (unknown : ∀ s, pattern = .text s → ∀ w ∈ mocks, w.1 ≠ .text s) :
      Enters pattern k mocks (mocks ++ [(pattern, k)])
  | instead {mocks' : List (Value × Address)}
      (each : List.Forall₂ (fun w w' => w'.1 = w.1 ∧ (w' = w ∨
        w'.2 = k ∧ ∀ s t, pattern = .text s → w.1 = .text t → s = t)) mocks mocks') :
      Enters pattern k mocks mocks'

def Registers (free : Nat → Prop) (pattern : Value) (m m' : Machine) : Prop :=
  ∃ m₁ mocks, (m.push (.mock {})).KeepsQueries free m₁ ∧ m' = m₁.withMocks mocks ∧
    Enters pattern m.store.size m.database.mocks mocks

lemma ends_itemsEqual [Asking R] (v w m) : Ends R (itemsEqual compare v w) m fun is _ =>
      ∀ s t, v = .text s → w = .text t → (is = true ↔ s = t) := by
  by_cases texts : ∃ s t, v = .text s ∧ w = .text t
  · obtain ⟨s, t, rfl, rfl⟩ := texts
    refine .of_ok (equal_texts s t m) (refl m) ?_
    rintro _ _ ⟨⟩ ⟨⟩
    exact beq_iff_eq
  · refine (keeps_itemsEqual gives_compare v w m).weaken fun _ _ _ _ s t left right => ?_
    exact absurd ⟨s, t, left, right⟩ texts

lemma content_push_text (o) (isText : m.content v = .text s) : (m.push o).content v = .text s := by
  cases v with
  | object a =>
    rw [Machine.content, Machine.objectAt?] at isText ⊢
    cases found : m.store.get? a with
    | none => grind
    | some held =>
      rw [found] at isText
      rw [get?_push_of_lt m o (get?_lt found), found]
      exact isText
  | _ => exact isText

lemma ends_findMock (pat) (mocks : List (Value × Address)) (m) :
    Ends (KeepsQueries free) (mocks.findM? fun w => itemsEqual compare pat w.1) m
      fun found _ => found = none → ∀ w ∈ mocks, ∀ s, pat = .text s → w.1 ≠ .text s := by
  refine .findM? (fun w m => ?_) mocks m
  refine (ends_itemsEqual pat w.1 m).weaken ?_
  rintro is _ - equal rfl s text same
  exact Bool.false_ne_true ((equal s s text same).2 rfl)

lemma ends_replaceMock (pat k) (mocks : List (Value × Address)) (m) :
    Ends (KeepsQueries free) (mocks.mapM fun w => do
      if ← itemsEqual compare pat w.1 then return (w.1, k) else return w) m
      fun mocks' _ => Enters pat k mocks mocks' := by
  refine (Ends.mapM (fun w m => ?_) mocks m).weaken fun _ _ _ each => .instead each
  refine .next (ends_itemsEqual pat w.1 m) fun is m' _ equal => ?_
  split
  case _ isEqual => exact .done ⟨rfl, .inr ⟨rfl, fun s t left right =>
      (equal s t left right).1 isEqual⟩⟩
  case _ => exact .done ⟨rfl, .inl rfl⟩

lemma ends_mock (pat m) : Ends (fun _ m' => Turns on free m m' ∨
        Registers free ((m.push (.mock {})).content pat) m m')
      (mock pat) m fun _ _ => True := by
  have made : Turns on free m (m.push (.mock {})) := .of_turn (.make rfl)
  have step {α : Type} {x : Eval α} {Q} {m1} (kept : (m.push (.mock {})).KeepsQueries free m1)
      (ends : Ends (KeepsQueries free) x m1 Q) :
      Ends (fun _ m' => Turns on free m m' ∨
        Registers free ((m.push (.mock {})).content pat) m m') x m1
        fun v m' => (m.push (.mock {})).KeepsQueries free m' ∧ Q v m' := by
    refine ends.imp (fun m' later => .inl ?_) fun v m' later due => ⟨kept.trans later, due⟩
    exact Asking.trans made (.aside (kept.trans later))
  refine .bind_from (.of_ok (Q := fun a m' => a = m.store.size ∧ m' = m.push (.mock {})) rfl
    (.inl made) ⟨rfl, rfl⟩) ?_
  rintro _ _ - ⟨rfl, rfl⟩
  refine .bind_from (step (Asking.refl _) (.of_ok (Q := fun p _ =>
    p = (m.push (.mock {})).content pat) (unwrap_eq pat _) (Asking.refl _) rfl)) ?_
  rintro _ m1 - ⟨kept, rfl⟩
  refine .bind_from (step kept (keeps_isKey _ m1)) ?_
  rintro isKey m2 - ⟨kept, -⟩
  split
  case _ =>
    refine .bind_from (step kept (.of_ok (Q := fun machine _ =>
      machine.database.mocks = m.database.mocks) rfl (Asking.refl _) kept.mocks)) ?_
    rintro machine m3 - ⟨kept, same⟩
    rw [same]
    have waits (mocks) {m'} (kept : (m.push (.mock {})).KeepsQueries free m') (enters) :
        Ends (fun _ m' => Turns on free m m' ∨
          Registers free ((m.push (.mock {})).content pat) m m') (do
            Connect.onDatabase ({ · with mocks })
            return Value.object m.store.size) m' fun _ _ => True :=
      .of_ok rfl (.inr ⟨m', mocks, kept, rfl, enters⟩) trivial
    refine .bind_from (step kept (ends_findMock _ _ m3)) ?_
    rintro found m4 - ⟨kept, unknown⟩
    cases found with
    | none => exact waits _ kept (.last fun s text w mem => unknown rfl w mem s text)
    | some _ =>
      refine .bind_from (step kept (ends_replaceMock _ _ _ m4)) ?_
      rintro mocks m5 - ⟨kept, enters⟩
      exact waits mocks kept enters
  case _ => exact .fail_bind (.inl (Asking.trans made (.aside kept)))

end Query
end BlockScript
