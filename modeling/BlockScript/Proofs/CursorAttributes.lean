import BlockScript.Proofs.LibraryEffects

/-!
The attributes of a cursor, after any history of calls that opened it, fetched from it and closed
it.
-/

namespace BlockScript

open Eval Machine

structure Machine.KeepsCursors (m m' : Machine) : Prop where
  follows : m.Follows m'
  cursor {a : Nat} {c : Cursor} :
    m.store.get? a = some (.cursor c) → m'.store.get? a = some (.cursor c)

namespace Machine.KeepsCursors

lemma trans (first : KeepsCursors m m') (second : KeepsCursors m' m'') : KeepsCursors m m'' where
  follows := first.follows.trans second.follows
  cursor held := second.cursor (first.cursor held)

lemma push (m) (other : ¬ o.IsOfProgram) : KeepsCursors m (m.push o) where
  follows := .push m other
  cursor held := get?_pushed held

lemma of_store (store : m'.store = m.store) (globals : m'.globals = m.globals) :
    KeepsCursors m m' where
  follows := .of_same globals store
  cursor held := by rwa [store]

lemma put (found : m.store.get? a = some old) (same : o.outline = old.outline)
    (other : ∀ c, old ≠ .cursor c) : KeepsCursors m (m.put a o) where
  follows := .put found same
  cursor {b c} held := by
    have apart : a ≠ b := by grind
    rw [get?_put_of_ne apart]
    exact held

end Machine.KeepsCursors

instance : Asking KeepsCursors where
  follows := KeepsCursors.follows
  refl _ := .of_store rfl rfl
  trans := .trans
  push m _ other := .push m (Object.not_isOfProgram other)
  pushCell _ := .push _ id
  addField found _ := (KeepsCursors.push _ id).trans (.put (get?_pushed found) rfl nofun)

instance : Assigning KeepsCursors where
  putValues found holds same := .put found same (by rintro c rfl; exact holds)
  putCell cell _ := .put cell.choose_spec rfl nofun

instance : Querying KeepsCursors where
  rest _ _ _ := .of_store rfl rfl
  move _ _ _ _ := .of_store rfl rfl
  putAnswer found answer same := .put found same (by rintro c rfl; exact answer)

def Value.isRow : Value → Bool
  | .none => false
  | _ => true

def Machine.hasRow (m : Machine) (e : Execution) : Bool :=
  match e.mock.bind m.store.get? with
  | some (.mock mock) =>
    match mock.rows with
    | some (row :: _) => row.isRow
    | _ => false
  | _ => false

def Machine.hasRowFor (m : Machine) (a : Address) : Bool :=
  match m.store.get? a with
  | some (.cursor c) =>
    match c.execution.bind m.store.get? with
    | some (.execution e) => m.hasRow e
    | _ => false
  | _ => false

namespace Query

variable {m m' : Machine}

lemma openWith_cursor (held : m.store.get? a = some (.cursor c))
    (opened : openWith a given locals m = .ok v m') :
    ∃ e, m'.store.get? a = some (.cursor { c with execution := some e }) := by
  rw [openWith, bind_ok (cursorAt_eq held)] at opened
  obtain ⟨binds, m1, bound, opened⟩ := ok_of_bind opened
  have first := ((keeps_bind (R := KeepsCursors) c given locals m).ok bound).1
  obtain ⟨conn, m2, used, opened⟩ := ok_of_bind opened
  obtain ⟨second, top⟩ := (Connect.ends_top (R := KeepsCursors) m1).ok used
  obtain ⟨e, m3, made, opened⟩ := ok_of_bind opened
  cases made
  obtain ⟨_, m4, stored, opened⟩ := ok_of_bind opened
  cases stored
  have old := second.cursor (first.cursor held)
  obtain ⟨now, isExecution⟩ := get?_push_put (get?_lt old) (.execution { binds })
    (.cursor { c with execution := some m2.store.size })
  obtain ⟨_, m5, executed, opened⟩ := ok_of_bind opened
  have third := ((ends_execute (R := KeepsCursors) isExecution rfl top c.query binds).ok executed).1
  obtain ⟨x, m6, looked, opened⟩ := ok_of_bind opened
  have fourth := ((keeps_executionAt (R := KeepsCursors) _ m5).ok looked).1
  obtain ⟨_, m7, changed, opened⟩ := ok_of_bind opened
  cases changed
  cases opened
  exact ⟨m2.store.size, fourth.cursor (third.cursor now)⟩

lemma nextRow_isRow (taken : nextRow x m = .ok row m') : row.isRow = m.hasRow x := by
  cases isMock : x.mock with
  | none =>
    rw [nextRow, isMock] at taken
    cases taken
  | some b =>
    rw [nextRow, isMock] at taken
    obtain ⟨mock, _, looked, taken⟩ := ok_of_bind taken
    obtain ⟨-, rfl, found⟩ := (ends_mockAt (R := KeepsCursors) b m).ok looked
    rw [Machine.hasRow, isMock, bind_some, found]
    obtain ⟨rows, rowCount, exec⟩ := mock
    match rows with
    | some (first :: rest) =>
      cases taken
      rfl
    | some [] | none =>
      cases taken
      rfl

lemma fetch_cursor (held : m.store.get? a = some (.cursor c))
    (fetched : fetch a targets m = .ok v m') :
    m'.store.get? a = some (.cursor { c with found := some (m.hasRowFor a) }) := by
  rw [fetch, bind_ok (cursorAt_eq held)] at fetched
  obtain ⟨query, binds, params, exec, wasFound⟩ := c
  cases exec with
  | none => cases fetched
  | some e =>
    obtain ⟨x, m1, looked, fetched⟩ := ok_of_bind fetched
    obtain ⟨-, same, isExecution⟩ := (ends_executionAt (R := KeepsCursors) e m).ok looked
    subst m1
    obtain ⟨row, m2, taken, fetched⟩ := ok_of_bind fetched
    have first := ((keeps_nextRow (R := KeepsCursors) x m).ok taken).1
    have isLeft : m.hasRowFor a = row.isRow := by
      rw [Machine.hasRowFor, held]
      dsimp only [bind_some]
      rw [isExecution]
      exact (nextRow_isRow taken).symm
    obtain ⟨_, m3, stored, fetched⟩ := ok_of_bind fetched
    cases stored
    have now := get?_put_self (get?_lt (first.cursor held))
      (.cursor ⟨query, binds, params, some e, some row.isRow⟩)
    rw [isLeft]
    change (if row.isRow then do
      distribute row 0 targets
      return Value.none else return Value.none) (m2.put a (.cursor _)) = _ at fetched
    split at fetched
    · obtain ⟨_, m4, given, fetched⟩ := ok_of_bind fetched
      have second := ((keeps_distribute (A := KeepsCursors) row targets 0 _).ok given).1
      cases fetched
      exact second.cursor now
    · cases fetched
      exact now

lemma close_cursor (held : m.store.get? a = some (.cursor c)) (closed : close a m = .ok v m') :
    m'.store.get? a = some (.cursor { c with execution := none }) := by
  rw [close, bind_ok (cursorAt_eq held)] at closed
  cases isOpen : c.execution with
  | none =>
    rw [isOpen] at closed
    cases closed
  | some e =>
    rw [isOpen] at closed
    obtain ⟨_, _, stored, closed⟩ := ok_of_bind closed
    cases stored
    cases closed
    exact get?_put_self (get?_lt held) _

inductive Past where
  | opened
  | fetched (isRow : Bool)
  | closed
deriving DecidableEq

def Past.opens? : Past → Option Bool
  | .opened => some true
  | .fetched _ => none
  | .closed => some false

def Past.row? : Past → Option Bool
  | .fetched isRow => some isRow
  | _ => none

/-- Whether the last call that opened or closed a cursor opened it. -/
def wasOpened (past : List Past) : Bool := (past.findSome? Past.opens?).getD false

def lastRow? (past : List Past) : Option Bool := past.findSome? Past.row?

def sinceOpening (past : List Past) : List Past := past.takeWhile (· ≠ .opened)

def attributes? (m : Machine) (a : Address) : Option (Bool × Option Bool) :=
  match m.store.get? a with
  | some (.cursor c) => some (c.execution.isSome, c.found)
  | _ => none

/-- A cursor and its history of successful calls. -/
inductive Lives (a : Address) : List Past → Machine → Prop where
  | made {m m' : Machine} {query binds parameters : Value}
      (makes : cursor query binds parameters m = .ok (.object a) m') : Lives a [] m'
  | aside {m m' : Machine} {past : List Past} (lives : Lives a past m)
      (same : attributes? m' a = attributes? m a) : Lives a past m'
  | opened {m m' : Machine} {past : List Past} {arguments locals v : Value} (lives : Lives a past m)
      (opens : openWith a arguments locals m = .ok v m') : Lives a (.opened :: past) m'
  | fetched {m m' : Machine} {past : List Past} {targets : List Value} {v : Value}
      (lives : Lives a past m) (fetches : fetch a targets m = .ok v m') :
      Lives a (.fetched (m.hasRowFor a) :: past) m'
  | closed {m m' : Machine} {past : List Past} {v : Value} (lives : Lives a past m)
      (closes : close a m = .ok v m') : Lives a (.closed :: past) m'

lemma attributes?_of_cursor (held : m.store.get? a = some (.cursor c)) :
    attributes? m a = some (c.execution.isSome, c.found) := by
  rw [attributes?, held]

lemma cursor_of_attributes? {isOpen : Bool} {found : Option Bool}
    (attributes : attributes? m a = some (isOpen, found)) :
    ∃ c, m.store.get? a = some (.cursor c) ∧ c.execution.isSome = isOpen ∧ c.found = found := by
  unfold attributes? at attributes
  split at attributes
  case _ c held => grind
  case _ => cases attributes

lemma Lives.attributes (lives : Lives a past m) :
    attributes? m a = some (wasOpened past, lastRow? past) := by
  induction lives with
  | made makes =>
    cases makes
    exact attributes?_of_cursor (get?_push_size _ _)
  | aside _ same ih => exact same.trans ih
  | opened _ opens ih =>
    obtain ⟨c, held, -, found⟩ := cursor_of_attributes? ih
    obtain ⟨e, now⟩ := openWith_cursor held opens
    rw [attributes?_of_cursor now, found]
    rfl
  | fetched _ fetches ih =>
    obtain ⟨c, held, isOpen, -⟩ := cursor_of_attributes? ih
    rw [attributes?_of_cursor (fetch_cursor held fetches), isOpen]
    rfl
  | closed _ closes ih =>
    obtain ⟨c, held, -, found⟩ := cursor_of_attributes? ih
    rw [attributes?_of_cursor (close_cursor held closes), found]
    rfl

def Shows (x : Eval Value) (m : Machine) (content : Value) : Prop :=
  ∃ c m', x m = .ok (.object c) m' ∧ m'.store.get? c = some (.cell content)

def asValue : Option Bool → Value
  | none => .null
  | some b => .bool b

lemma Shows.unique (first : Shows x m v) (second : Shows x m w) : v = w := by
  obtain ⟨c, m1, result, content⟩ := first
  obtain ⟨c', m2, result', content'⟩ := second
  grind

lemma asValue_inj (same : asValue f = asValue g) : f = g := by
  rcases f with _ | f <;> rcases g with _ | g <;> cases same <;> rfl

section

variable (held : m.store.get? a = some (.cursor c))
include held

lemma isOpen_eq : isOpen a m = .ok (.bool c.execution.isSome) m := by
  exact bind_ok (cursorAt_eq held)

lemma found_eq : found a m = .ok (.object m.store.size) (m.push (.cell (asValue c.found))) := by
  rw [found, bind_ok (cursorAt_eq held)]
  cases c.found <;> rfl

lemma shows_found : Shows (found a) m (asValue c.found) := ⟨_, _, found_eq held, get?_push_size m _⟩

lemma shows_notFound : Shows (notFound a) m (asValue (c.found.map not)) := by
  have content := get?_push_size m (.cell (asValue c.found))
  unfold Shows
  rw [notFound, bind_ok (found_eq held), negate, bind_ok (unwrap_cell content)]
  cases c.found with
  | none | some b => exact ⟨_, _, rfl, get?_push_size _ _⟩

end

lemma lastRow?_append (later earlier : List Past) :
    lastRow? (later ++ earlier) = (lastRow? later).or (lastRow? earlier) :=
  List.findSome?_append

lemma lastRow?_eq_none : lastRow? past = none ↔ ∀ b, .fetched b ∉ past := by
  rw [lastRow?, List.findSome?_eq_none_iff]
  constructor
  · intro none b mem
    cases none _ mem
  · rintro none (_ | b | _) mem
    · rfl
    · exact absurd mem (none b)
    · rfl

lemma lastRow?_sinceOpening (past : List Past) : lastRow? (sinceOpening past) = lastRow? past ↔
      (∃ b, .fetched b ∈ sinceOpening past) ∨ ∀ b, .fetched b ∉ past := by
  have parts : sinceOpening past ++ past.dropWhile (· ≠ .opened) = past :=
    List.takeWhile_append_dropWhile
  have whole := lastRow?_append (sinceOpening past) (past.dropWhile (· ≠ .opened))
  rw [parts] at whole
  cases since : lastRow? (sinceOpening past) with
  | none =>
    have none : ¬ ∃ b, .fetched b ∈ sinceOpening past := not_exists.2 (lastRow?_eq_none.1 since)
    rw [eq_comm, lastRow?_eq_none, or_iff_right none]
  | some b =>
    rw [since, Option.some_or] at whole
    obtain ⟨call, mem, isRow⟩ := List.exists_of_findSome?_eq_some since
    cases call <;> cases isRow
    exact iff_of_true whole.symm (.inl ⟨b, mem⟩)

/-- A cursor is open if the last call that opened or closed it opened it. What it found is what the
last fetch found, whenever that was; and that is what the fetches since it was opened found just if
there is one, or if there was none before either. -/
theorem attributes_after_history {past : List Past} (lives : Lives a past m) :
    isOpen a m = .ok (.bool (wasOpened past)) m ∧
      Shows (found a) m (asValue (lastRow? past)) ∧
      Shows (notFound a) m (asValue ((lastRow? past).map not)) ∧
      (Shows (found a) m (asValue (lastRow? (sinceOpening past))) ↔
        (∃ b, .fetched b ∈ sinceOpening past) ∨ ∀ b, .fetched b ∉ past) := by
  obtain ⟨c, held, isOpen, isFound⟩ := cursor_of_attributes? lives.attributes
  have shown := shows_found held
  rw [isFound] at shown
  refine ⟨isOpen ▸ isOpen_eq held, shown, isFound ▸ shows_notFound held, ?_⟩
  rw [← lastRow?_sinceOpening]
  exact ⟨fun since => asValue_inj (since.unique shown), fun same => same ▸ shown⟩

def preparedMachine : Machine where
  store := ⟨#[.list [], .dict [], .tuple [.int 1], .mock { rows := some [.object 2] },
    .mock { rows := some [.object 2] },
    .cursor { query := .text "one two", binds := .object 0, parameters := .object 0 }]⟩
  database := { target := .text "d", mocks := [(.text "one", 3), (.text "two", 4)] }

def openedMachine : Machine := (openWith 5 (.object 0) (.object 1)).after preparedMachine

def fetchedMachine : Machine := (fetch 5 []).after openedMachine

def closedMachine : Machine := (close 5).after fetchedMachine

def reopenedMachine : Machine := (openWith 5 (.object 0) (.object 1)).after closedMachine

lemma fetched_lives : Lives 5 [.fetched true, .opened] fetchedMachine := by
  have made : Lives 5 [] preparedMachine := .made
    (m := { preparedMachine with store := ⟨preparedMachine.store.objects.pop⟩ }) rfl
  have opens : openWith 5 (.object 0) (.object 1) preparedMachine = .ok .none openedMachine := by
    rfl
  have fetches : fetch 5 [] openedMachine = .ok .none fetchedMachine := by rfl
  exact (made.opened opens).fetched fetches

lemma reopened_lives : Lives 5 [.opened, .closed, .fetched true, .opened] reopenedMachine := by
  have closes : close 5 fetchedMachine = .ok .none closedMachine := by rfl
  have opens : openWith 5 (.object 0) (.object 1) closedMachine = .ok .none reopenedMachine := by
    rfl
  exact (fetched_lives.closed closes).opened opens

theorem fetched_row_found :
    Lives 5 [.fetched true, .opened] fetchedMachine ∧ Shows (found 5) fetchedMachine (.bool true) :=
  ⟨fetched_lives, (attributes_after_history fetched_lives).2.1⟩

/-- A cursor that is opened again has found something before anything is fetched from it. -/
theorem reopened_has_found :
    ∃ past, Lives 5 past reopenedMachine ∧ wasOpened past ∧
      (∀ b, .fetched b ∉ sinceOpening past) ∧ Shows (found 5) reopenedMachine (.bool true) ∧
      ¬ Shows (found 5) reopenedMachine .null := by
  obtain ⟨c, held, -, isFound⟩ := cursor_of_attributes? reopened_lives.attributes
  have shown := shows_found held
  rw [isFound] at shown
  refine ⟨_, reopened_lives, rfl, by decide, shown, fun absent => ?_⟩
  cases absent.unique shown

end Query
end BlockScript
