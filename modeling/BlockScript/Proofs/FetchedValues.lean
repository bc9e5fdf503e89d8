import BlockScript.Proofs.Agreement
import BlockScript.Proofs.FetchedRows

/-!
Values that go from a row to a variable and from there to a query.
-/

namespace BlockScript

def Value.IsScalar : Value → Prop
  | .none | .bool _ | .int _ | .float _ | .text _ => True
  | _ => False

lemma Value.take_orNull {v : Value} (scalar : v.IsScalar) (s s' : Store) :
    Snapshot.take s v.orNull = Snapshot.take s' v.orNull := by
  cases v <;> first | rfl | exact scalar.elim

namespace Query

open Eval Embedded Machine

variable {m : Machine}

lemma maps_gathered (enough : parameters.length ≤ items.length) (mem : root ∈ roots)
    (isOther : root ∉ parameters) (known : vars.get? root = some (.object t))
    (cell : m.store.get? t = some (.cell w)) (scalar : m.objectAt? w = none)
    (alone : ∀ name ∈ roots, name ≠ root → ¬ Adds m parameters vars name (quoted root)) :
    (Bindings.setAll [] (gathered m parameters roots items vars)).Maps (quoted root) w := by
  have own : localValues m parameters vars root = [(quoted root, w)] := by
    have content : m.content (.object t) = w := by
      simp [Machine.content, Machine.objectAt?, cell]
    simp [localValues, isOther, known, valuesOf, Machine.fields?, content, scalar]
  have adds : Adds m parameters vars root (quoted root) := by
    rw [← mem_names_localValues, own]
    exact mem_cons_self
  refine Bindings.maps_setAll ((mem_names_gathered enough).2 (.inr ⟨root, mem, adds⟩)) ?_
  intro u bound
  rcases mem_append.1 bound with first | other
  · obtain ⟨p, inside, same⟩ := mem_map.1 first
    have isParameter := (of_mem_zip inside).1
    rw [quoted_inj.1 (Prod.mk.inj same).1] at isParameter
    exact absurd isParameter isOther
  · obtain ⟨name, inRoots, bound⟩ := List.mem_flatMap.1 other
    by_cases isRoot : name = root
    · rw [isRoot, own] at bound
      exact (Prod.mk.inj (mem_singleton.1 bound)).2
    · exact absurd (mem_names_localValues.1 (mem_map_of_mem bound)) (alone name inRoots isRoot)

lemma fetch_next {targets : List Address} (cursor : m.store.get? a = some (.cursor c))
    (attached : c.execution = some e) (exec : m.store.get? e = some (.execution x))
    (taken : x.mock = some k) (mock : m.store.get? k = some (.mock n))
    (rows : n.rows = some (.object r :: rest))
    (row : m.store.get? r = some (.list items) ∨ m.store.get? r = some (.tuple items))
    (data : ∀ v ∈ items, m.IsData v) (ne : targets.Nodup) (cells : ∀ t ∈ targets, m.IsCell t)
    (wide : targets.length ≤ items.length) :
    ∃ m1, fetch a (targets.map .object) m = .ok .none m1 ∧
      targets.map m1.store.get? = (items.take targets.length).map fun v => some (.cell v.orNull) := by
  obtain ⟨m', -, turns, result⟩ :=
    fetch_drawn cursor attached exec taken mock rows (targets.map .object)
  have isRow : m'.IsRow (.object r) items :=
    ⟨r, rfl, row.imp (turns.collections _ _ trivial) (turns.collections _ _ trivial)⟩
  have cells' (t) (mem : t ∈ targets) : m'.IsCell t :=
    (turns.follows.isCell (get?_lt (cells t mem).choose_spec)).2 (cells t mem)
  obtain ⟨m1, distributed, -, got⟩ := distribute_eq (i := 0) ne isRow
    (fun v mem => (data v mem).keep turns.collections) cells' (by omega)
  exact ⟨m1, result.trans (bind_ok distributed), got⟩

/-- A value that is no object comes from a row to a variable, and from the variable to each query
that it is sent with while the variable still has it. It stays the same; but nothing becomes the
absent value. -/
theorem fetched_value_sent {c : Cursor} {e r : Address} {x : Execution} {n : Mock}
    {items rest : List Value} {targets : List Address} {i : Nat}
    (cursor : m.store.get? a = some (.cursor c)) (attached : c.execution = some e)
    (execution : m.store.get? e = some (.execution x)) (taken : x.mock = some k)
    (mock : m.store.get? k = some (.mock n)) (rows : n.rows = some (.object r :: rest))
    (row : m.store.get? r = some (.list items) ∨ m.store.get? r = some (.tuple items))
    (data : ∀ v ∈ items, m.IsData v) (distinct : targets.Nodup)
    (cells : ∀ t ∈ targets, m.IsCell t) (wide : targets.length ≤ items.length)
    (target : targets[i]? = some t) (value : items[i]? = some v) (scalar : v.IsScalar) :
    ∃ m₁, fetch a (targets.map .object) m = .ok .none m₁ ∧
      m₁.store.get? t = some (.cell v.orNull) ∧ (v ≠ .none → v.orNull = v) ∧
      ∀ {m₂ : Machine} {sql root : String} {roots parameters : List String} {vars : Bindings}
        {submission : Eval Value}, m₂.store.get? t = m₁.store.get? t →
        Submits m₂ sql roots vars parameters submission → root ∈ roots → root ∉ parameters →
        vars.get? root = some (.object t) →
        (∀ name ∈ roots, name ≠ root → ¬ Adds m₂ parameters vars name (quoted root)) →
        Logs (Executes sql fun entries => ∀ u, (.text (quoted root), u) ∈ entries ↔
          u = .take m₂.store v.orNull) submission m₂ := by
  obtain ⟨m₁, fetched, got⟩ := fetch_next cursor attached execution taken mock rows row data
    distinct cells wide
  have held : m₁.store.get? t = some (.cell v.orNull) := by
    have place := congrArg (·[i]?) got
    have small : i < targets.length := (List.getElem?_eq_some_iff.1 target).1
    simp only [List.getElem?_map, target, List.getElem?_take_of_lt small, value, map_some] at place
    exact Option.some.inj place
  have same (some_value : v ≠ .none) : v.orNull = v := by
    cases v <;> first | rfl | exact absurd rfl some_value
  refine ⟨m₁, fetched, held, same, fun kept submits member isOther known alone => ?_⟩
  refine submits.logs_of fun {n items} grows parts enough s u => ?_
  have maps := maps_gathered enough member isOther known (grows.kept _ _ (kept.trans held))
    (by cases v <;> first | rfl | exact scalar.elim) (by simpa only [Adds, parts] using alone)
  rw [mem_logged, Value.take_orNull scalar _ s]
  constructor
  · rintro ⟨⟨name, w⟩, bound, same⟩
    obtain ⟨isName, rfl⟩ := Prod.mk.inj same
    cases isName
    rw [(maps w).1 bound]
  · rintro rfl
    exact ⟨_, (maps _).2 rfl, rfl⟩

/-- An open cursor whose mock has a row with a text and nothing, two variables, and a list and a
dictionary with their names. -/
def rowMachine : Machine where
  store := ⟨#[.cursor { query := .text "q", binds := .none, parameters := .none, execution := some 1 },
    .execution { mock := some 2 }, .mock { rows := some [.object 3] }, .list [.text "a", .none],
    .cell .null, .cell (.int 7), .list [.text "X", .text "Y"],
    .dict [(.text "X", .object 4), (.text "Y", .object 5)]]⟩
  database := { target := .text "d" }

def receivedMachine : Machine := (fetch 0 [.object 4, .object 5]).after rowMachine

theorem fetched_text_sent : receivedMachine.store.get? 4 = some (.cell (.text "a")) ∧
    Logs (Executes "u" fun entries => ∀ u, (.text (quoted "X"), u) ∈ entries ↔ u = .text "a")
      (executeOnce (.text "u") (.object 6) (.object 7)) receivedMachine := by
  have data : ∀ v ∈ [.text "a", .none], rowMachine.IsData v := by
    intro v member
    rcases mem_cons.1 member with rfl | member
    · exact .text "a"
    · cases mem_singleton.1 member
      exact .none
  have cells : ∀ t ∈ [4, 5], rowMachine.IsCell t := by
    intro t member
    rcases mem_cons.1 member with rfl | member
    · exact ⟨_, rfl⟩
    · cases mem_singleton.1 member
      exact ⟨_, rfl⟩
  obtain ⟨m₁, fetched, held, -, sent⟩ := fetched_value_sent (m := rowMachine) (a := 0) (i := 0)
    rfl rfl rfl rfl rfl rfl (.inl rfl) data (by decide : [4, 5].Nodup) cells (by decide) rfl rfl
    trivial
  have same : receivedMachine = m₁ := by
    change (fetch 0 ([4, 5].map .object)).after rowMachine = m₁
    rw [Eval.after, fetched]
  rw [same]
  have names : m₁.store.get? 6 = some (.list (["X", "Y"].map .text)) := by
    rw [← same]
    rfl
  have visible : m₁.store.get? 7 = some (.dict ([("X", .object 4), ("Y", .object 5)].map
      fun v : String × Value => (.text v.1, v.2))) := by
    rw [← same]
    rfl
  refine ⟨held, sent rfl (.once names visible) mem_cons_self (by simp) rfl ?_⟩
  rintro name member other ⟨-, v, -, part, -, same⟩
  obtain rfl : name = "Y" := by simpa [other] using member
  cases part with
  | none => exact absurd (quoted_inj.1 same) (by decide)
  | some field =>
    have letters := congrArg String.toList (quoted_inj.1 same)
    simp [partName] at letters

/-- Nothing in a row is not sent back as nothing. -/
theorem fetched_nothing_changed :
    ((executeOnce (.text "u") (.object 6) (.object 7)).after receivedMachine).database.log =
      [.connect (.text "d"), .execute (.text "u")
        (.dict [(.text (quoted "X"), .text "a"), (.text (quoted "Y"), .null)])] := by
  rw [sortEntries_pair]
  · rfl
  · decide +kernel

end Query
end BlockScript
