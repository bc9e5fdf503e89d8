import BlockScript.Proofs.CursorAttributes
import BlockScript.Proofs.HeldMocks

/-!
Rows that are fetched. Once an execution holds a mock for a cursor, one fetch after the other gives
the rows that the mock had, in their order and up to the last one, and puts their items into the
targets.
-/

namespace BlockScript

open Eval Machine

def Value.orNull : Value → Value
  | .none => .null
  | v => v

namespace Query

variable {m m' : Machine}

inductive Operation where
  | cursor (query binds parameters : Value)
  | openWith (a : Address) (arguments locals : Value)
  | fetch (a : Address) (targets : List Value)
  | close (a : Address)
  | isOpen (a : Address)
  | found (a : Address)
  | notFound (a : Address)
  | executeOnce (query binds locals : Value)
  | executeInto (query : Value) (targets : List Value)
  | sysContext (namespaceName parameter : Value)
  | mock (pattern : Value)
  | returns (a : Address) (content : Value)
  | setRowCount (a : Address) (rowCount : Value)
  | expectOpenWith (a : Address) (content : Value)

namespace Operation

def run : Operation → Eval Value
  | cursor query binds parameters => Query.cursor query binds parameters
  | openWith a arguments locals => Query.openWith a arguments locals
  | fetch a targets => Query.fetch a targets
  | close a => Query.close a
  | isOpen a => Query.isOpen a
  | found a => Query.found a
  | notFound a => Query.notFound a
  | executeOnce query binds locals => Query.executeOnce query binds locals
  | executeInto query targets => Query.executeInto query targets
  | sysContext namespaceName parameter => Query.sysContext namespaceName parameter
  | mock pattern => Query.mock pattern
  | returns a content => Query.returns a content
  | setRowCount a rowCount => Query.setRowCount a rowCount
  | expectOpenWith a content => Query.expectOpenWith a content

def subject? : Operation → Option Address
  | openWith a _ _ | fetch a _ | close a | returns a _ | setRowCount a _ => some a
  | _ => none

def targets : Operation → List Value
  | fetch _ targets | executeInto _ targets => targets
  | _ => []

def On (op : Operation) (m : Machine) (a : Nat) : Prop := op.subject? = some a ∨ m.store.size ≤ a

def Free (op : Operation) (m : Machine) (c : Nat) : Prop :=
  .object c ∈ op.targets ∨ m.store.size ≤ c

lemma turns (op : Operation) (m) :
    Turns (op.On m) (op.Free m) m (op.run.after m) ∨ ∃ shown pat, op = .mock shown ∧
      (∀ s, m.content shown = .text s → pat = .text s) ∧
        Registers (op.Free m) pat m (op.run.after m) := by
  have later (b new) : op.On m b := .inr new
  cases op with
  | cursor query binds params => exact .inl (.of_turn (.make rfl))
  | openWith a args locals => exact .inl (ends_openWith (.inl rfl) args locals m).after
  | fetch a targets => exact .inl (ends_fetch (.inl rfl) (fun _ => .inl) m).after
  | close a => exact .inl (ends_close (.inl rfl) m).after
  | isOpen a => exact .inl ((gives_isOpen a).keeps m).after
  | found a => exact .inl ((gives_found a).keeps m).after
  | notFound a => exact .inl ((gives_notFound a).keeps m).after
  | executeOnce query binds locals => exact .inl (ends_executeOnce later query binds locals).after
  | executeInto query targets => exact .inl (ends_executeInto later query fun _ => .inl).after
  | sysContext namespaceName parameter =>
    exact .inl (ends_sysContext later (fun _ => .inr) namespaceName parameter).after
  | mock pat =>
    refine (ends_mock pat m).after.imp id fun regs => ?_
    exact ⟨pat, _, rfl, fun s => content_push_text _, regs⟩
  | returns a content => exact .inl (ends_returns (.inl rfl) content m).after
  | setRowCount a rowCount => exact .inl (ends_setRowCount (.inl rfl) rowCount m).after
  | expectOpenWith a content => exact .inl ((gives_expectOpenWith a content).keeps m).after

lemma orderly (op : Operation) (orderly : m.Orderly) : (op.run.after m).Orderly := by
  rcases op.turns m with turns | ⟨_, _, _, _, regs⟩
  · exact orderly.turns turns
  · exact regs.orderly orderly

lemma queued (op : Operation) (queued : m.Queued)
    (texts : ∀ shown, op = .mock shown → ∃ s, m.content shown = .text s) :
    (op.run.after m).Queued := by
  rcases op.turns m with turns | ⟨shown, pat, same, text, regs⟩
  · exact queued.turns turns
  · obtain ⟨s, isText⟩ := texts shown same
    obtain rfl := text s isText
    exact regs.queued queued

lemma supplies (op : Operation) {found : Option Bool} (orderly : m.Orderly)
    (supplies : m.Supplies a k found rows) (notCursor : op.subject? ≠ some a)
    (notMock : op.subject? ≠ some k) :
    (op.run.after m).Supplies a k found rows := by
  obtain ⟨c, _, _, cursor, -⟩ := supplies.cursor
  obtain ⟨w, _, mock, -⟩ := supplies.offers
  have off {b} {o} (found : m.store.get? b = some o) (other : op.subject? ≠ some b) :
      ¬ op.On m b := by
    rintro (same | new)
    · exact other same
    · exact absurd (get?_lt found) (Nat.not_lt.2 new)
  rcases op.turns m with turns | ⟨_, _, _, _, regs⟩
  · exact supplies.turns orderly turns (off cursor notCursor) (off mock notMock)
  · exact regs.supplies orderly supplies

end Operation

/-- A machine that operations led to from one without cursors and mocks. Mocks are made for texts,
and anything can happen between operations that leaves cursors, mocks and collections alone. -/
inductive Served : Machine → Prop
  | start {m : Machine} (none : ∀ (a : Nat) (o : Object), m.store.get? a = some o → ¬ o.IsOfQuery)
      (idle : m.database.mocks = []) : Served m
  | operation {m : Machine} (served : Served m) (op : Operation)
      (texts : ∀ shown, op = .mock shown → ∃ s, m.content shown = .text s) :
      Served (op.run.after m)
  | aside {m m' : Machine} (served : Served m) (keeps : m.KeepsQueries (fun _ => True) m') :
      Served m'

/-- A number of fetches from a cursor. Any operations on other cursors and mocks happen between
them, and anything that leaves cursors, mocks and collections alone; and all of it may fail. -/
inductive Fetched (a k : Address) (m : Machine) : Nat → Machine → Prop
  | start : Fetched a k m 0 m
  | fetch {m' : Machine} {i : Nat} (fetched : Fetched a k m i m') (targets : List Value) :
      Fetched a k m (i + 1) ((Query.fetch a targets).after m')
  | operation {m' : Machine} {i : Nat} (fetched : Fetched a k m i m') (op : Operation)
      (notCursor : op.subject? ≠ some a) (notMock : op.subject? ≠ some k) :
      Fetched a k m i (op.run.after m')
  | aside {m' m'' : Machine} {i : Nat} (fetched : Fetched a k m i m')
      (keeps : m'.KeepsQueries (fun _ => True) m'') : Fetched a k m i m''

variable {found : Option Bool} {i : Nat}

lemma Served.orderly (served : Served m) : m.Orderly := by
  induction served with
  | start none => exact {
      own := fun found => absurd trivial (none _ _ found)
      made := fun found => absurd trivial (none _ _ found)
      data := fun found => absurd trivial (none _ _ found) }
  | operation _ op _ ih => exact op.orderly ih
  | aside _ keeps ih => exact ih.aside keeps

lemma Served.queued (served : Served m) : m.Queued := by
  induction served with
  | start none idle => exact {
      apart := by rw [idle]; exact .nil
      made := by rw [idle]; nofun
      free := fun found => absurd trivial (none _ _ found) }
  | operation _ op texts ih => exact op.queued ih texts
  | aside _ keeps ih => exact ih.aside keeps

lemma executionAt_eq (found : m.store.get? e = some (.execution x)) :
    executionAt e m = .ok x m := by
  rw [executionAt, bind_ok (load?_eq m e), found]
  rfl

lemma mockAt_eq (found : m.store.get? k = some (.mock w)) : mockAt k m = .ok w m := by
  rw [mockAt, bind_ok (load?_eq m k), found]
  rfl

lemma nextRow_eq (taken : x.mock = some k) (mock : m.store.get? k = some (.mock w))
    (rows : w.rows = some (row :: rest)) :
    nextRow x m = .ok row (m.put k (.mock { w with rows := some rest })) := by
  rw [nextRow, taken]
  dsimp only
  rw [bind_ok (mockAt_eq mock), rows]
  rfl

lemma nextRow_end (taken : x.mock = some k) (mock : m.store.get? k = some (.mock w))
    (rows : w.rows = some []) : nextRow x m = .ok .none m := by
  rw [nextRow, taken]
  dsimp only
  rw [bind_ok (mockAt_eq mock), rows]
  rfl

lemma fetch_drawn (cursor : m.store.get? a = some (.cursor c)) (attached : c.execution = some e)
    (exec : m.store.get? e = some (.execution x)) (taken : x.mock = some k)
    (mock : m.store.get? k = some (.mock w)) (has : w.rows = some (.object r :: rest))
    (targets) :
    ∃ m1, m1 = (m.put k (.mock { w with rows := some rest })).put a
        (.cursor { c with found := some true }) ∧
      Turns (· = a) (fun _ => False) m m1 ∧
      fetch a targets m = (do
        distribute (.object r) 0 targets
        return Value.none : Eval Value) m1 := by
  have apart : k ≠ a := by grind
  have kept : (m.put k (.mock { w with rows := some rest })).store.get? a = some (.cursor c) :=
    (get?_put_of_ne apart ..).trans cursor
  refine ⟨_, rfl, Asking.trans (Turns.of_turn (.draw rfl cursor attached exec taken mock has))
    (Turns.of_turn (.alter rfl kept (.inl rfl))), ?_⟩
  rw [fetch, bind_ok (cursorAt_eq cursor), attached]
  dsimp only
  rw [bind_ok (executionAt_eq exec), bind_ok (nextRow_eq taken mock has)]
  rfl

lemma fetch_row (orderly : m.Orderly) (supplies : m.Supplies a k found (items :: rows)) (targets) :
    ∃ r m1, m1.IsRow (.object r) items ∧ m1.IsData (.object r) ∧ m1.Supplies a k (some true) rows ∧
      Turns (· = a) (fun _ => False) m m1 ∧
      fetch a targets m = (do
        distribute (.object r) 0 targets
        return Value.none : Eval Value) m1 := by
  obtain ⟨c, e, x, cursor, attached, -, exec, taken, sole⟩ := supplies.cursor
  obtain ⟨w, had, mock, has, each⟩ := supplies.offers
  cases each with
  | @cons row _ rest _ isRow each =>
    obtain ⟨r, rfl, held⟩ := id isRow
    have apart : k ≠ a := by grind
    have there := get?_lt cursor
    obtain ⟨m1, rfl, turns, result⟩ := fetch_drawn cursor attached exec taken mock has targets
    have data := orderly.data mock has mem_cons_self
    refine ⟨r, _, isRow.keep turns.collections, data.keep turns.collections, ?_, turns, result⟩
    exact {
      cursor := by
        refine ⟨_, e, x, get?_put_self (by rwa [size_put]) _, attached, rfl,
          turns.execution exec taken, taken, fun b y there has => ?_⟩
        rcases get?_put_cases there with ⟨⟨⟩, -⟩ | there
        rcases get?_put_cases there with ⟨⟨⟩, -⟩ | there
        exact sole b y there has
      offers := ⟨_, rest, (get?_put_of_ne apart.symm ..).trans (get?_put_self (get?_lt mock) _),
        rfl, each.imp fun _ _ isRow => isRow.keep turns.collections⟩
      unlisted := supplies.unlisted }

lemma fetch_end (supplies : m.Supplies a k found []) (targets) :
    ∃ m1, fetch a targets m = .ok .none m1 ∧ m1.Supplies a k (some false) [] ∧
      Turns (· = a) (fun _ => False) m m1 := by
  obtain ⟨c, e, x, cursor, attached, -, exec, taken, sole⟩ := supplies.cursor
  obtain ⟨w, had, mock, has, each⟩ := supplies.offers
  cases each
  have apart : a ≠ k := by grind
  have turns : Turns (· = a) (fun _ => False) m
      (m.put a (.cursor { c with found := some false })) :=
    .of_turn (.alter rfl cursor (.inl rfl))
  refine ⟨_, ?_, ?_, turns⟩
  · rw [fetch, bind_ok (cursorAt_eq cursor), attached]
    dsimp only
    rw [bind_ok (executionAt_eq exec), bind_ok (nextRow_end taken mock has)]
    rfl
  · exact {
      cursor := by
        refine ⟨_, e, x, get?_put_self (get?_lt cursor) _, attached, rfl,
          turns.execution exec taken, taken, fun b y there has => ?_⟩
        rcases get?_put_cases there with ⟨⟨⟩, -⟩ | there
        exact sole b y there has
      offers := ⟨w, [], (get?_put_of_ne apart ..).trans mock, has, .nil⟩
      unlisted := supplies.unlisted }

lemma supplies_fetch (orderly : m.Orderly) (supplies : m.Supplies a k found rows)
    (targets) : ∃ now, ((fetch a targets).after m).Supplies a k now (rows.drop 1) := by
  cases rows with
  | nil =>
    obtain ⟨m1, result, now, -⟩ := fetch_end supplies targets
    rw [Eval.after, result]
    exact ⟨_, now⟩
  | cons items rows =>
    obtain ⟨r, m1, -, -, now, -, result⟩ := fetch_row orderly supplies targets
    have ends : Ends (KeepsQueries fun _ => True) (do
        distribute (.object r) 0 targets
        return Value.none) m1 fun _ _ => True :=
      .next (keeps_distribute_free _ (fun _ _ => trivial) 0 m1) fun _ m' _ _ => .done trivial
    rw [Eval.after, result]
    exact ⟨_, now.aside ends.after⟩

lemma Fetched.supplies (fetched : Fetched a k m i m') (orderly : m.Orderly)
    (supplies : m.Supplies a k found rows) :
    m'.Orderly ∧ ∃ now, m'.Supplies a k now (rows.drop i) := by
  induction fetched with
  | start => exact ⟨orderly, found, supplies⟩
  | fetch _ targets ih =>
    obtain ⟨orderly, now, supplies⟩ := ih
    obtain ⟨now, supplies⟩ := supplies_fetch orderly supplies targets
    rw [List.drop_drop] at supplies
    exact ⟨Operation.orderly (.fetch a targets) orderly, now, supplies⟩
  | operation _ op notCursor notMock ih =>
    obtain ⟨orderly, now, supplies⟩ := ih
    exact ⟨op.orderly orderly, now, op.supplies orderly supplies notCursor notMock⟩
  | aside _ keeps ih =>
    obtain ⟨orderly, now, supplies⟩ := ih
    exact ⟨orderly.aside keeps, now, supplies.aside keeps⟩

lemma Opened.unique (opened : Opened a e k' m m') (given : m'.Draws a k) : k' = k := by
  obtain ⟨c, -, cursor⟩ := opened.cursor
  obtain ⟨x, exec, taken⟩ := opened.execution
  obtain ⟨d, e', y, cursor', attached, exec', taken'⟩ := given
  grind

lemma Opened.supplies (opened : Opened a e k m m') (queued : m.Queued)
    (kept : m.KeepsCollections m') (offers : m.Offers k rows) :
    ∃ found, m'.Supplies a k found rows := by
  obtain ⟨c, -, cursor⟩ := opened.cursor
  obtain ⟨x, exec, taken⟩ := opened.execution
  obtain ⟨before, after, s, waited, left⟩ := opened.waited
  obtain ⟨w, w', old, mock, same⟩ := opened.mock
  obtain ⟨v, had, there, has, each⟩ := offers
  cases old.symm.trans there
  have mem : (.text s, k) ∈ m.database.mocks := by
    grind
  exact ⟨c.found, {
    cursor := by
      refine ⟨_, e, x, cursor, rfl, rfl, exec, taken, fun b y there has => ?_⟩
      by_contra apart
      have held := opened.others b y (Ne.symm apart) there
      exact (queued.free held has).2 s mem
    offers := ⟨w', had, mock, same.trans has, each.imp fun _ _ isRow => isRow.keep kept⟩
    unlisted := by
      rw [left]
      exact not_mem_of_apart (waited ▸ queued.apart) }⟩

lemma wrap_data (data : m.IsData v) :
    wrap v.orNull m = .ok (.object m.store.size) (m.push (.cell v.orNull)) := by
  have made {r} {o} (found : m.store.get? r = some o) (is : o.IsCollection) :
      wrap (.object r) m = .ok (.object m.store.size) (m.push (.cell (.object r))) := by
    rw [wrap, bind_ok (load?_eq m r), found]
    cases o <;> first | rfl | exact is.elim
  cases data with
  | none | bool | int | float | text => rfl
  | list found => exact made found trivial
  | tuple found => exact made found trivial
  | dict found => exact made found trivial

lemma item_eq (isRow : m.IsRow (.object r) items) (there : items[i]? = some v) :
    item (.object r) (.int i) m = .ok v m := by
  obtain ⟨small, rfl⟩ := List.getElem?_eq_some_iff.1 there
  have slot : Slice.slot? items.length (i : Int) = some i := by
    have natural : ¬ (i : Int) < 0 := by omega
    simp [Slice.slot?, natural, small]
  have taken : itemOf items (.int i) m = .ok items[i] m := by
    have pos : toPosition (.int i) m = .ok (i : Int) m := rfl
    rw [itemOf, bind_ok pos, slot]
    dsimp only
    rw [List.getD_eq_getElem?_getD, there]
    rfl
  obtain ⟨_, ⟨⟩, found | found⟩ := isRow
  · exact (bind_ok (objectOf?_object found)).trans taken
  · exact (bind_ok (objectOf?_object found)).trans taken

lemma assign_new {content : Value} (cell : m.IsCell t) :
    assign (.object t) (.object m.store.size) (m.push (.cell content)) =
      .ok (.object t) ((m.push (.cell content)).put t (.cell content)) := by
  obtain ⟨old, found⟩ := cell
  have there : (m.push (.cell content)).store.get? t = some (.cell old) := get?_pushed found
  have new := get?_push_size m (.cell content)
  rw [assign, bind_ok (load?_eq _ t), there]
  dsimp only
  rw [bind_ok (wrap_cell new), bind_ok (cell?_cell new)]
  rfl

lemma distribute_cons (isRow : m.IsRow (.object r) items) (there : items[i]? = some v)
    (data : m.IsData v) (cell : m.IsCell t) (targets) :
    distribute (.object r) i (.object t :: targets) m = distribute (.object r) (i + 1) targets
        ((m.push (.cell v.orNull)).put t (.cell v.orNull)) := by
  have assigned : (do
      discard (assign (.object t) (← wrap v.orNull))
      distribute (.object r) (i + 1) targets : Eval Unit) m = distribute (.object r) (i + 1) targets
          ((m.push (.cell v.orNull)).put t (.cell v.orNull)) := by
    rw [bind_ok (wrap_data data)]
    exact bind_ok (bind_ok (assign_new cell))
  rw [distribute, bind_ok (item_eq isRow there)]
  cases v <;> exact assigned

lemma distribute_eq {targets : List Address} (ne : targets.Nodup)
    (isRow : m.IsRow (.object r) items) (data : ∀ v ∈ items, m.IsData v)
    (cells : ∀ t ∈ targets, m.IsCell t) (wide : i + targets.length ≤ items.length) :
    ∃ m', distribute (.object r) i (targets.map .object) m = .ok () m' ∧
      m.KeepsQueries (· ∈ targets) m' ∧
      targets.map m'.store.get? =
        ((items.drop i).take targets.length).map fun v => some (.cell v.orNull) := by
  induction targets generalizing m i with
  | nil => exact ⟨m, rfl, .refl m, rfl⟩
  | cons t targets ih =>
    rw [nodup_cons] at ne
    rw [length_cons] at wide
    have small : i < items.length := by omega
    have there := getElem?_eq_getElem small
    have isData := data _ (getElem_mem small)
    have isCell := cells t mem_cons_self
    obtain ⟨old, found⟩ := id isCell
    have pushed : (m.push (.cell items[i].orNull)).store.get? t = some (.cell old) :=
      get?_pushed found
    have first : m.KeepsQueries (· ∈ t :: targets)
        ((m.push (.cell items[i].orNull)).put t (.cell items[i].orNull)) :=
      (KeepsQueries.push m id id).trans (.put pushed rfl id id fun _ _ => mem_cons_self)
    have others (u) (mem : u ∈ targets) :
        ((m.push (.cell items[i].orNull)).put t (.cell items[i].orNull)).IsCell u := by
      have was := cells u (mem_cons_of_mem _ mem)
      exact (first.follows.isCell (get?_lt was.choose_spec)).2 was
    obtain ⟨m', given, kept, got⟩ := ih ne.2 (isRow.keep first.collections)
      (fun v mem => (data v mem).keep first.collections) others
      (by omega : i + 1 + targets.length ≤ items.length)
    have mine := kept.cell ne.1 (get?_put_self (get?_lt pushed) _)
    refine ⟨m', (distribute_cons isRow there isData isCell _).trans given,
      first.trans (kept.mono fun _ => mem_cons_of_mem _), ?_⟩
    rw [map_cons, mine, got, List.drop_eq_getElem_cons small, length_cons,
      List.take_succ_cons, map_cons]

lemma attributes?_of_supplies (supplies : m.Supplies a k found rows) :
    attributes? m a = some (true, found) := by
  obtain ⟨c, e, x, cursor, attached, isFound, -⟩ := supplies.cursor
  rw [attributes?_of_cursor cursor, attached, isFound]
  rfl

/-- Once a cursor was opened with a mock, the fetches from it give the rows of the mock in order,
whatever is done to other cursors and mocks before, between and after them. While there is a row it
is found, its items are in the targets, and the rows behind it are left; then nothing is found and
the targets stay as they are. No fetch changes a cell that is not a target of it. -/
theorem fetch_drains_rows {m₁ m₂ : Machine} {arguments locals v : Value}
    {rows : List (List Value)} {i : Nat} {targets : List Address} (served : Served m)
    (opened : openWith a arguments locals m = .ok v m₁) (given : m₁.Draws a k)
    (offers : m.Offers k rows) (fetched : Fetched a k m₁ i m₂) (distinct : targets.Nodup)
    (cells : ∀ t ∈ targets, m₂.IsCell t) (wide : ∀ row ∈ rows, targets.length ≤ row.length) :
    (∃ m₃, fetch a (targets.map .object) m₂ = .ok .none m₃ ∧
      (∀ row, rows[i]? = some row → attributes? m₃ a = some (true, some true) ∧
        m₃.Offers k (rows.drop (i + 1)) ∧ targets.map m₃.store.get? =
          (row.take targets.length).map fun v => some (.cell v.orNull)) ∧
      (rows.length ≤ i → attributes? m₃ a = some (true, some false) ∧ m₃.Offers k [] ∧
        targets.map m₃.store.get? = targets.map m₂.store.get?)) ∧
      ∀ (n : Machine) (b : Address) (others : List Value) (c : Address) (content : Value),
        .object c ∉ others → n.store.get? c = some (.cell content) →
          ((fetch b others).after n).store.get? c = some (.cell content) := by
  constructor
  · have ends : Ends (Turns (fun _ => True) fun _ => False) (openWith a arguments locals) m
        fun _ m' => ∃ e k, Opened a e k m m' := ends_openWith trivial arguments locals m
    obtain ⟨turns, e, k', isOpened⟩ := ends.ok opened
    obtain rfl := isOpened.unique given
    obtain ⟨found, supplies⟩ := isOpened.supplies served.queued turns.collections offers
    obtain ⟨orderly, now, supplies⟩ := fetched.supplies (served.orderly.turns turns) supplies
    by_cases small : i < rows.length
    · rw [List.drop_eq_getElem_cons small] at supplies
      obtain ⟨r, m', isRow, data, left, before, result⟩ :=
        fetch_row orderly supplies (targets.map .object)
      have cells' (t : Address) (member : t ∈ targets) : m'.IsCell t := by
        have was := cells t member
        exact (before.follows.isCell (get?_lt was.choose_spec)).2 was
      obtain ⟨m₃, distributed, keeps, got⟩ := distribute_eq distinct isRow (isRow.data data) cells'
        (by have := wide _ (getElem_mem small); omega : 0 + targets.length ≤ rows[i].length)
      refine ⟨m₃, result.trans (bind_ok distributed), fun row there => ?_, fun few => by omega⟩
      rw [getElem?_eq_getElem small] at there
      cases there
      have after := left.aside keeps
      exact ⟨attributes?_of_supplies after, after.offers, got⟩
    · have none : rows.drop i = [] := List.drop_eq_nil_of_le (Nat.not_lt.1 small)
      rw [none] at supplies
      obtain ⟨m₃, result, left, turns⟩ := fetch_end supplies (targets.map .object)
      refine ⟨m₃, result, fun row there => ?_,
        fun _ => ⟨attributes?_of_supplies left, left.offers, ?_⟩⟩
      · rw [List.getElem?_eq_none (Nat.not_lt.1 small)] at there
        cases there
      · refine map_congr_left fun t member => ?_
        obtain ⟨content, held⟩ := cells t member
        rw [held]
        exact turns.cell id held
  · intro n b others c content fixed found
    have ends : Ends (Turns (fun _ => True) (.object · ∈ others)) (fetch b others) n
        fun _ _ => True := ends_fetch trivial (fun _ => id) n
    exact ends.after.cell fixed found

def plainMachine : Machine where
  store := ⟨#[.list [], .dict [], .cell .null, .cell .null]⟩
  database := { target := .text "d" }

def mockedMachine : Machine := (Operation.mock (.text "one")).run.after plainMachine

def offeringMachine : Machine :=
  (Operation.returns 4 (.text "[(1, 2), [3, None]]")).run.after mockedMachine

def suppliedMachine : Machine :=
  (Operation.cursor (.text "one two") (.object 0) (.object 0)).run.after offeringMachine

def attachedMachine : Machine := (openWith 8 (.object 0) (.object 1)).after suppliedMachine

def drainedMachine : Machine :=
  (Operation.mock (.text "two")).run.after ((fetch 8 []).after attachedMachine)

lemma supplied_served : Served suppliedMachine := by
  have plain : Served plainMachine := by
    refine .start (fun a o found => ?_) rfl
    have mem : o ∈ plainMachine.store.objects := Array.mem_of_getElem? found
    simp only [plainMachine, List.mem_toArray, mem_cons, not_mem_nil, or_false] at mem
    rcases mem with rfl | rfl | rfl | rfl <;> exact id
  have mocked : Served mockedMachine := by
    refine plain.operation (.mock (.text "one")) ?_
    rintro _ ⟨⟩
    exact ⟨"one", rfl⟩
  have offering : Served offeringMachine := mocked.operation (.returns 4 _) nofun
  exact offering.operation (.cursor _ _ _) nofun

lemma read_rows : Data.read "[(1, 2), [3, None]]" =
    .ok (.list [.tuple [.int 1, .int 2], .list [.int 3, .none]]) := by cbv

lemma supplied_eq : suppliedMachine =
    { store := ⟨#[.list [], .dict [], .cell .null, .cell .null,
        .mock { rows := some [.object 5, .object 6] }, .tuple [.int 1, .int 2],
        .list [.int 3, .none], .list [.object 5, .object 6],
        .cursor { query := .text "one two", binds := .object 0, parameters := .object 0 }]⟩
      database := { target := .text "d", mocks := [(.text "one", 4)] } } := by
  unfold suppliedMachine offeringMachine Operation.run returns dataOf
  simp only [read_rows]
  rfl

theorem second_row_fetched : suppliedMachine.Offers 4 [[.int 1, .int 2], [.int 3, .none]] ∧
    ∃ m', fetch 8 [.object 2, .object 3] drainedMachine = .ok .none m' ∧
      attributes? m' 8 = some (true, some true) ∧ m'.Offers 4 [] ∧
      m'.store.get? 2 = some (.cell (.int 3)) ∧ m'.store.get? 3 = some (.cell .null) := by
  have opens : openWith 8 (.object 0) (.object 1) suppliedMachine = .ok .none attachedMachine := by
    rw [attachedMachine, supplied_eq]
    rfl
  have offers : suppliedMachine.Offers 4 [[.int 1, .int 2], [.int 3, .none]] := by
    unfold Machine.Offers Machine.IsRow
    rw [supplied_eq]
    exact ⟨_, _, rfl, rfl, .cons ⟨5, rfl, .inr rfl⟩ (.cons ⟨6, rfl, .inl rfl⟩ .nil)⟩
  have attached : attachedMachine.store.get? 8 =
        some (.cursor ⟨.text "one two", .object 0, .object 0, some 9, none⟩) ∧
      attachedMachine.store.get? 9 = some (.execution { mock := some 4 }) := by
    rw [attachedMachine, supplied_eq]
    exact ⟨rfl, rfl⟩
  have fetched : Fetched 8 4 attachedMachine 1 drainedMachine :=
    (Fetched.start.fetch []).operation (.mock (.text "two")) (by decide) (by decide)
  have cells : drainedMachine.store.get? 2 = some (.cell .null) ∧
      drainedMachine.store.get? 3 = some (.cell .null) := by
    rw [drainedMachine, attachedMachine, supplied_eq]
    exact ⟨rfl, rfl⟩
  have targets : ∀ t ∈ [2, 3], drainedMachine.IsCell t := by
    intro t member
    rcases mem_cons.1 member with rfl | member
    · exact ⟨_, cells.1⟩
    · cases mem_singleton.1 member
      exact ⟨_, cells.2⟩
  obtain ⟨⟨m', result, found, -⟩, -⟩ := fetch_drains_rows supplied_served opens
    ⟨_, 9, _, attached.1, rfl, attached.2, rfl⟩ offers fetched (by decide) targets (by decide)
  obtain ⟨attributes, left, got⟩ := found [.int 3, .none] rfl
  obtain ⟨two, three⟩ := List.cons.inj got
  exact ⟨offers, m', result, attributes, left, two, (List.cons.inj three).1⟩

end Query
end BlockScript
