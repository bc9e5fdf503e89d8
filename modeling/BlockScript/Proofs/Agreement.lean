import BlockScript.Proofs.Binding
import BlockScript.Proofs.ConnectionStack
import BlockScript.Proofs.Placeholders

/-!
What the database sees of a query. Opening a cursor logs at most one execution, before a mock is
looked for, with the values that were bound. The placeholders of a query are written when it is
compiled, one for each reference; the values are collected when it is executed, one for each
parameter of the cursor and for each part that a variable then has.
-/

namespace BlockScript

namespace Eval

variable {x : Eval α}

def Logs (P : Event → Prop) (x : Eval α) (m : Machine) : Prop :=
  ∃ events, (x.after m).database.log = m.database.log ++ events ∧ ∀ e ∈ events, P e

lemma Logs.silent (same : (x.after m).database.log = m.database.log) : Logs P x m :=
  ⟨[], by rw [same, append_nil], nofun⟩

lemma Logs.mono (logs : Logs P x m) (wider : ∀ e, P e → Q e) : Logs Q x m :=
  logs.imp fun _ kind => ⟨kind.1, fun e mem => wider e (kind.2 e mem)⟩

lemma Logs.same (quiet : Logs (fun _ => False) x m) :
    (x.after m).database.log = m.database.log := by
  obtain ⟨events, grown, kind⟩ := quiet
  rw [grown, List.eq_nil_iff_forall_not_mem.2 kind, append_nil]

lemma log_bind_quiet (quiet : ∀ r m', x m = .ok r m' → Logs (fun _ => False) (f r) m') :
    ((x >>= f).after m).database.log = (x.after m).database.log := by
  cases result : x m with
  | ok r m' => rw [after_bind result, (quiet r m' result).same, after, result]
  | error stop m' => rw [after, bind_error result, after, result]

lemma Logs.bind (first : Logs P x m) (second : ∀ r m', x m = .ok r m' → Logs P (f r) m') :
    Logs P (x >>= f) m := by
  obtain ⟨events, grown, kind⟩ := first
  cases result : x m with
  | ok r m1 =>
    obtain ⟨later, grown', kind'⟩ := second r m1 result
    rw [after, result] at grown
    refine ⟨events ++ later, ?_, ?_⟩
    · rw [← append_assoc, ← grown, after_bind result]
      exact grown'
    · grind
  | error stop m1 =>
    refine ⟨events, ?_, kind⟩
    rw [after, bind_error result, ← grown, after, result]

lemma Reads.logs (reads : Reads m x Q) : Logs P x m := by
  refine .silent ?_
  unfold Reads at reads
  unfold after
  cases result : x m with
  | ok r m1 => grind
  | error e m1 => grind

lemma Keeps.logs (keeps : Keeps Machine.Aside x) : Logs P x m :=
  .silent (congrArg Database.log (keeps m).after.database)

end Eval

namespace Query

open Eval Embedded

variable {names : String → Prop}

def Executes (sql : String) (B : List (Snapshot × Snapshot) → Prop) (e : Event) : Prop :=
  ∀ shown entries, e = .execute shown (.dict entries) → shown = .text sql ∧ B entries

def logged (s : Store) (binds : Bindings) : List (Snapshot × Snapshot) :=
  Snapshot.sortEntries (binds.map fun b => (.text b.1, .take s b.2))

def Carries (sql : String) (names : String → Prop) (e : Event) : Prop :=
  ∀ shown entries, e = .execute shown (.dict entries) → shown = .text sql ∧
    ∀ key, key ∈ entries.map (·.1) ↔ ∃ name, names name ∧ key = .text name

lemma logs_top : Logs (fun e => ∃ target, e = .connect target) Connect.top m := by
  refine Logs.bind ?_ fun _ m' _ => ?_
  · refine Logs.bind (.silent rfl) fun now m1 _ => ?_
    dsimp only
    split
    · exact .silent rfl
    refine (keeps_truth _).logs.bind fun isSet m2 _ => ?_
    cases isSet
    · exact .silent rfl
    exact ⟨[_], m2.database.log_connect _, fun e mem => ⟨_, mem_singleton.1 mem⟩⟩
  · refine Logs.bind (.silent rfl) fun now m1 _ => ?_
    cases now.database.top? <;> exact .silent rfl

lemma mapM_looks {g : β → Eval α} {bs : List β}
    (looks : ∀ b ∈ bs, g b m = .ok (f b) m) : bs.mapM g m = .ok (bs.map f) m := by
  induction bs with
  | nil => rfl
  | cons b bs ih =>
    obtain ⟨first, later⟩ := forall_mem_cons.1 looks
    rw [mapM_cons, bind_ok first, bind_ok (ih later)]
    rfl

lemma mapM_snapshots (binds : Bindings) (m) :
    binds.mapM (fun b => do return (Snapshot.text b.1, ← snapshot b.2) :
      String × Value → Eval (Snapshot × Snapshot)) m =
      .ok (binds.map fun b => (.text b.1, .take m.store b.2)) m := mapM_looks fun _ _ => rfl

lemma sortEntries_pair {a b : Snapshot × Snapshot} (le : a.1.key ≤ b.1.key) :
    [a, b] = Snapshot.sortEntries [a, b] :=
  (List.mergeSort_of_pairwise (by simpa using le)).symm

lemma mem_logged : entry ∈ logged s binds ↔ ∃ b ∈ binds, (.text b.1, .take s b.2) = entry :=
  (List.mergeSort_perm _ _).mem_iff.trans mem_map

lemma mem_keys_logged (bound : ∀ key, key ∈ binds.names ↔ names key) (s : Store) (key : Snapshot) :
    key ∈ (logged s binds).map (·.1) ↔ ∃ name, names name ∧ key = .text name := by
  simp only [mem_map, mem_logged, ← bound, Bindings.names]
  grind

/-- The query is logged once, whether a mock answers it or not. -/
lemma log_execute (conn : Nat) (a query binds m) :
    let s := (m.put a (.execution { binds })).store
    ((execute conn a query binds).after m).database.log =
      m.database.log ++ [.execute (.take s query) (.dict (logged s binds))] := by
  intro s
  have shown : snapshot query (m.put a (.execution { binds })) = .ok (.take s query) _ := rfl
  have values := mapM_snapshots binds (m.put a (.execution { binds }))
  have noted (f m) : Connect.onDatabase f m = .ok () { m with database := f m.database } := rfl
  rw [execute, after_bind (put_eq a _ m), after_bind shown, after_bind values,
    after_bind (noted _ _)]
  refine (Logs.same ?_).trans (Database.log_record _ _ _)
  refine Logs.bind (Reads.of_eq (unwrap_eq _ _) rfl).logs fun query m5 _ => ?_
  refine (keeps_choose query _).logs.bind fun chosen m7 _ => ?_
  rcases chosen with _ | ⟨mock, others⟩
  · exact .silent rfl
  exact (keeps_mockAt mock).logs.bind fun _ m9 _ => .silent rfl

lemma logs_execute (bound : ∀ s, B (logged s binds)) :
    Logs (Executes sql B) (execute conn a (.text sql) binds) m := by
  refine ⟨[_], log_execute conn a (.text sql) binds m, fun e mem shown entries is => ?_⟩
  rw [mem_singleton.1 mem] at is
  cases is
  exact ⟨rfl, bound _⟩

lemma logs_openWith (held : m.store.get? a = some (.cursor c)) (query : c.query = .text sql)
    (bound : Reads m (bind c given locals) fun out => ∀ s, B (logged s out)) :
    Logs (Executes sql B) (openWith a given locals) m := by
  refine Logs.bind (Reads.of_eq (cursorAt_eq held) rfl).logs fun c' m1 isHeld => ?_
  cases (cursorAt_eq held).symm.trans isHeld
  refine bound.logs.bind fun binds m2 isBound => ?_
  have values : ∀ s, B (logged s binds) := by
    rw [Reads, isBound] at bound
    exact bound.2
  refine (logs_top.mono ?_).bind fun conn m3 _ => ?_
  · rintro _ ⟨target, rfl⟩ shown entries is
    cases is
  refine Logs.bind (.silent rfl) fun e m4 _ => ?_
  refine Logs.bind (.silent rfl) fun _ m5 _ => ?_
  rw [query]
  refine (logs_execute values).bind fun _ m6 _ => ?_
  exact (keeps_executionAt e).logs.bind fun _ m7 _ => .silent rfl

def Sent (m : Machine) (roots parameters : List String) (vars : Bindings) (key : String) : Prop :=
  (∃ p ∈ parameters, key = quoted p) ∨ ∃ root ∈ roots, Adds m parameters vars root key

/-- The calls that execute a query of the program: at once, or by opening a cursor that was declared
for it. -/
inductive Submits (m : Machine) (sql : String) (roots : List String) (vars : Bindings) :
    List String → Eval Value → Prop where
  | once {b l : Address} (named : m.store.get? b = some (.list (roots.map .text)))
      (visible : m.store.get? l = some (.dict (vars.map fun v => (.text v.1, v.2)))) :
      Submits m sql roots vars [] (executeOnce (.text sql) (.object b) (.object l))
  | opened {a b p g l : Address} {c : Cursor} {parameters : List String} {items : List Value}
      (held : m.store.get? a = some (.cursor c)) (query : c.query = .text sql)
      (isNames : c.binds = .object b) (named : m.store.get? b = some (.list (roots.map .text)))
      (isList : c.parameters = .object p)
      (listed : m.store.get? p = some (.list (parameters.map .text)))
      (given : m.store.get? g = some (.list items))
      (visible : m.store.get? l = some (.dict (vars.map fun v => (.text v.1, v.2)))) :
      Submits m sql roots vars parameters (openWith a (.object g) (.object l))

def Sends (x : Eval Value) (m : Machine) (shown : Snapshot)
    (entries : List (Snapshot × Snapshot)) : Prop :=
  ∃ events, (x.after m).database.log = m.database.log ++ events ∧
    .execute shown (.dict entries) ∈ events

lemma logs_close (a) : Logs P (close a) m := by
  refine Logs.bind (Logs.bind (.silent rfl) fun held m' _ => ?_) fun c m' _ => ?_
  · rcases held with _ | held
    · exact .silent rfl
    · cases held <;> exact .silent rfl
  · split <;> exact .silent rfl

/-- The values of a query are read from the machine as it is when the query is submitted, but for
what is made for the call. -/
lemma Submits.logs_of (submits : Submits m sql roots vars parameters x)
    (bound : ∀ {n} {items}, m.Grows n → (∀ v, n.partsOf v = m.partsOf v) →
      parameters.length ≤ items.length →
        ∀ s, B (logged s (.setAll [] (gathered n parameters roots items vars)))) :
    Logs (Executes sql B) x m := by
  cases submits with
  | opened held query isNames named isList listed given visible =>
    refine logs_openWith held query ((reads_bind listed visible isList isNames named given).imp ?_)
    rintro _ ⟨enough, rfl⟩
    exact bound (.refl m) (fun _ => rfl) enough
  | @once b l named visible =>
    -- the lists and the cursor that are made for the call are neither cells nor records
    let m1 := m.push (.list [])
    let c : Cursor := { query := .text sql, binds := .object b, parameters := .object m.store.size }
    let m2 := m1.push (.cursor c)
    let m3 := m2.push (.list [])
    have grows : m.Grows m3 :=
      ((Machine.Grows.push m _).trans (Machine.Grows.push m1 _)).trans (Machine.Grows.push m2 _)
    have listed : m3.store.get? m.store.size = some (.list ([].map .text)) :=
      ((Machine.Grows.push m1 _).trans (Machine.Grows.push m2 _)).kept _ _
        (m.get?_push_size (.list []))
    have held : m3.store.get? m1.store.size = some (.cursor c) :=
      (Machine.Grows.push m2 _).kept _ _ (m1.get?_push_size (.cursor c))
    have given : m3.store.get? m2.store.size = some (.list []) := m2.get?_push_size (.list [])
    have besideList (n : Machine) : ∀ v, (n.push (.list [])).partsOf v = n.partsOf v :=
      n.partsOf_push (fun _ => nofun) (fun _ => nofun)
    have besideCursor : ∀ v, m2.partsOf v = m1.partsOf v :=
      m1.partsOf_push (fun _ => nofun) (fun _ => nofun)
    have parts : ∀ v, m3.partsOf v = m.partsOf v := fun v =>
      ((besideList m2 v).trans (besideCursor v)).trans (besideList m v)
    have opens : Logs (Executes sql B)
        (openWith m1.store.size (.object m2.store.size) (.object l)) m3 := by
      refine logs_openWith held rfl ((reads_bind listed (grows.kept _ _ visible) rfl rfl
        (grows.kept _ _ named) given).imp ?_)
      rintro _ ⟨enough, rfl⟩
      exact bound grows parts enough
    refine Logs.bind (.silent rfl) fun parameters m' isNew => ?_
    cases isNew
    refine Logs.bind (.silent rfl) fun a m' isNew => ?_
    cases isNew
    refine Logs.bind (.silent rfl) fun args m' isNew => ?_
    cases isNew
    exact (opens.bind fun _ m' _ => .silent rfl).bind fun _ m' _ => logs_close _

lemma Submits.logs (submits : Submits m sql roots vars parameters x) :
    Logs (Carries sql (Sent m roots parameters vars)) x m := by
  refine submits.logs_of fun {n items} _ parts enough s => ?_
  refine mem_keys_logged (fun key => ?_) s
  rw [Bindings.mem_names_setAll, mem_names_gathered enough, Sent]
  simp [Adds, parts, Bindings.names]

end Query

namespace Reference

def field? (r : Reference) : Option String :=
  if r.attrs = [] then none else some (".".intercalate r.attrs)

lemma name_eq_partName (r : Reference) : r.name = Query.partName r.root r.field? := by
  cases attrs : r.attrs with
  | nil => simp [name, path, field?, attrs, Query.partName]
  | cons attr attrs =>
    rw [name, path, attrs, String.intercalate_cons_cons, field?, if_neg (by simp [attrs]),
      Query.partName, attrs]

end Reference

namespace Query

open Eval Embedded

section

variable {root : String} {m : Machine} {vars : Bindings} {refs : List Reference}

lemma quoted_inj {name : String} : quoted name = quoted other ↔ name = other := by
  constructor
  · intro same
    have chars := congrArg String.toList same
    simpa [quoted, String.toList_inj] using chars
  · rintro rfl
    rfl

lemma dotless_word (word : IsWord root) : '.' ∉ root.toList := fun mem =>
  absurd (word.2 _ mem) (by decide)

lemma takeWhile_partName (dotless : '.' ∉ root.toList) (part : Option String) :
    (partName root part).toList.takeWhile (· != '.') = root.toList := by
  have all : ∀ c ∈ root.toList, (c != '.') = true := fun c mem => by
    rw [bne_iff_ne]
    rintro rfl
    exact dotless mem
  cases part with
  | none =>
    rw [partName, ← append_nil root.toList, List.takeWhile_append_of_pos all]
    rfl
  | some field =>
    rw [partName, String.toList_append, String.toList_append, append_assoc,
      List.takeWhile_append_of_pos all]
    simp

lemma partName_inj (dotless : '.' ∉ root.toList) (dotless' : '.' ∉ root'.toList)
    (same : partName root part = partName root' part') : root = root' ∧ part = part' := by
  have roots : root = root' := by
    rw [← String.toList_inj, ← takeWhile_partName dotless part, same,
      takeWhile_partName dotless' part']
  subst roots
  refine ⟨rfl, ?_⟩
  have chars := congrArg String.toList same
  have sizes := congrArg List.length chars
  rcases part with _ | field <;> rcases part' with _ | field'
  · rfl
  · simp [partName] at sizes
  · simp [partName] at sizes
  · simp only [partName, String.toList_append] at chars
    rw [String.toList_inj.1 (List.append_cancel_left chars)]

def partsUnder (m : Machine) (parameters : List String) (vars : Bindings) (root : String) :
    List (Option String) :=
  if root ∈ parameters then [none] else ((vars.get? root).map m.partsOf).getD []

attribute [local simp] partsUnder

lemma sent_iff : Sent m roots parameters vars key ↔
    ∃ root part, (root ∈ parameters ∨ root ∈ roots) ∧ part ∈ partsUnder m parameters vars root ∧
      key = quoted (partName root part) := by
  constructor
  · rintro (⟨p, mem, rfl⟩ | ⟨root, mem, other, v, known, part, inside, rfl⟩)
    · exact ⟨p, none, .inl mem, by simp [mem], rfl⟩
    · exact ⟨root, part, .inr mem, by simpa [other, known] using inside, rfl⟩
  · rintro ⟨root, part, relevant, inside, rfl⟩
    by_cases isParameter : root ∈ parameters
    · obtain rfl : part = none := by simpa [isParameter] using inside
      exact .inl ⟨root, isParameter, rfl⟩
    · refine .inr ⟨root, relevant.resolve_left isParameter, isParameter, ?_⟩
      cases known : vars.get? root with
      | none => simp [isParameter, known] at inside
      | some v => exact ⟨v, rfl, part, by simpa [isParameter, known] using inside, rfl⟩

lemma sent_agrees_iff (words : ∀ p ∈ parameters, IsWord p) (known : ∀ r ∈ refs, IsWord r.root)
    (named : ∀ root, root ∈ roots ↔ ∃ r ∈ refs, r.root = root) :
    (∀ key, Sent m roots parameters vars key ↔ ∃ r ∈ refs, key = quoted r.name) ↔
      (∀ p ∈ parameters, ∃ r ∈ refs, r.root = p) ∧
        ∀ r ∈ refs, ∀ part, part ∈ partsUnder m parameters vars r.root ↔
          ∃ r' ∈ refs, r'.root = r.root ∧ r'.field? = part := by
  have word : ∀ root, root ∈ parameters ∨ root ∈ roots → '.' ∉ root.toList := by
    rintro root (isParameter | isRoot)
    · exact dotless_word (words root isParameter)
    · obtain ⟨r, mem, rfl⟩ := (named root).1 isRoot
      exact dotless_word (known r mem)
  have inj {root part} {r} (relevant : root ∈ parameters ∨ root ∈ roots)
      (mem : r ∈ refs) (same : quoted (partName root part) = quoted r.name) :
      r.root = root ∧ r.field? = part := by
    rw [quoted_inj, r.name_eq_partName] at same
    obtain ⟨roots, parts⟩ := partName_inj (word root relevant) (dotless_word (known r mem)) same
    exact ⟨roots.symm, parts.symm⟩
  simp only [sent_iff]
  constructor
  · intro agrees
    have reached {root part} (relevant : root ∈ parameters ∨ root ∈ roots)
        (inside : part ∈ partsUnder m parameters vars root) :
        ∃ r ∈ refs, r.root = root ∧ r.field? = part := by
      obtain ⟨r, mem, same⟩ := (agrees _).1 ⟨root, part, relevant, inside, rfl⟩
      exact ⟨r, mem, inj relevant mem same⟩
    refine ⟨fun p isParameter => ?_, fun r mem part => ⟨fun inside => ?_, ?_⟩⟩
    · obtain ⟨r, mem, same, -⟩ := reached (.inl isParameter)
        (show none ∈ partsUnder m parameters vars p by simp [isParameter])
      exact ⟨r, mem, same⟩
    · exact reached (.inr ((named _).2 ⟨r, mem, rfl⟩)) inside
    · rintro ⟨r', mem', same, rfl⟩
      obtain ⟨root, part, relevant, inside, is⟩ := (agrees _).2 ⟨r', mem', rfl⟩
      obtain ⟨rfl, rfl⟩ := inj relevant mem' is.symm
      exact same ▸ inside
  · rintro ⟨used, exactly⟩ key
    constructor
    · rintro ⟨root, part, relevant, inside, rfl⟩
      obtain ⟨r, mem, rfl⟩ := relevant.elim (used root) (named root).1
      obtain ⟨r', mem', same, rfl⟩ := (exactly r mem part).1 inside
      exact ⟨r', mem', by rw [r'.name_eq_partName, same]⟩
    · rintro ⟨r, mem, rfl⟩
      exact ⟨r.root, r.field?, .inr ((named _).2 ⟨r, mem, rfl⟩),
        (exactly r mem _).2 ⟨r, mem, rfl, rfl⟩, by rw [r.name_eq_partName]⟩

/-- A query that is executed is sent as it was compiled. The names of its values are those of its
placeholders if and only if every parameter is used and every variable that it refers to is referred
to by exactly the parts that it has at that moment. -/
theorem values_match_placeholders_iff {source sql : String} {declared : List String}
    {kind : Nonterminal} {ts : List (Tree Token)} {bounds : List Reference} {x : Eval Value}
    {shown : Snapshot} {entries : List (Snapshot × Snapshot)}
    (read : IsRead source [.node kind ts]) (other : kind ≠ .regularId)
    (plain : IsPlainText (spannedText source (.node kind ts)).toList)
    (made : Embedded.query source declared (.node kind ts) = .ok (sql, bounds))
    (words : ∀ p ∈ parameters, IsWord p)
    (submits : Submits m sql (bounds.map (·.root)) vars parameters x)
    (sends : Sends x m shown entries) :
    shown = .text sql ∧ ∃ rs, collectAll source declared ts = .ok (rs.map .reference) ∧
      ((∀ key, key ∈ entries.map (·.1) ↔
          ∃ name ∈ placeholders sql, key = .text (quoted name)) ↔
        (∀ p ∈ parameters, ∃ r ∈ declaredAmong declared rs, r.root = p) ∧
          ∀ r ∈ declaredAmong declared rs, ∀ part,
            part ∈ partsUnder m parameters vars r.root ↔
              ∃ r' ∈ declaredAmong declared rs, r'.root = r.root ∧ r'.field? = part) := by
  obtain ⟨rs, collected, bound⟩ := query_iff.1 made
  have ordered := isOrdered_of_read read other collected
  obtain ⟨events, grown, sent⟩ := sends
  obtain ⟨events', grown', kinds⟩ := submits.logs
  obtain rfl : events = events' := List.append_cancel_left (grown.symm.trans grown')
  obtain ⟨isText, keys⟩ := kinds _ sent shown entries rfl
  refine ⟨isText, rs, collected, ?_⟩
  have known : ∀ r ∈ declaredAmong declared rs, IsWord r.root := fun r member =>
    (ordered.stand r (mem_filter.1 member).1).words _ mem_cons_self
  have named : ∀ root, root ∈ bounds.map (·.root) ↔
      ∃ r ∈ declaredAmong declared rs, r.root = root := by
    intro root
    have isBound : Embedded.bound declared (rs.map (·.moved (origin (.node kind ts)))) = bounds :=
      congrArg Prod.snd bound
    rw [← isBound, mem_roots_bound, declaredAmong_moved, List.map_map]
    exact mem_map
  rw [← sent_agrees_iff words known named]
  simp only [keys, placeholders_bind ordered plain bound]
  constructor
  · intro agrees key
    have own := agrees (.text key)
    simpa using own
  · intro agrees key
    simp only [agrees]
    grind

end

def insertionText : String := "insert into users values (rc.id)"

def insertionToken (kind : Terminal) (text : String) (start : Nat) : Token where
  kind := kind
  text := text
  position := {}
  start := start
  stop := start + text.length - 1

def insertionTree : Tree Token :=
  .node .dataManipulationLanguageStatements [.node .insertStatement [
    .leaf (insertionToken .INSERT "insert" 0), .leaf (insertionToken .INTO "into" 7),
    .node .regularId [.leaf (insertionToken .REGULAR_ID "users" 12)],
    .leaf (insertionToken .VALUES "values" 18), .leaf (insertionToken .LEFT_PAREN "(" 25),
    .node .generalElement [
      .node .regularId [.leaf (insertionToken .REGULAR_ID "rc" 26)],
      .leaf (insertionToken .PERIOD "." 28),
      .node .regularId [.leaf (insertionToken .REGULAR_ID "id" 29)]],
    .leaf (insertionToken .RIGHT_PAREN ")" 31)]]

lemma insertion_read : IsRead insertionText [insertionTree] where
  pieces := by decide +kernel
  ordered := by decide +kernel
  names := HasNames.of_hasNamesAll [insertionTree] (by decide +kernel)

def recordMachine (fields : List String) : Machine where
  store := ⟨#[.cell (.int 0), .record (fields.map fun f => (f, .int 7)), .list [.text "RC"],
    .dict [(.text "RC", .object 1)]]⟩
  database := { target := .text "d" }

def insertionQuery : String := "insert into users values (:\"RC.ID\")"

def insertionReference : Reference where
  root := "RC"
  attrs := ["ID"]
  start := 26
  stop := 30

def insertionCall : Eval Value := executeOnce (.text insertionQuery) (.object 2) (.object 3)

lemma insertion_query : Embedded.query insertionText ["RC"] insertionTree =
      .ok (insertionQuery, [insertionReference]) := by with_unfolding_all rfl

lemma insertion_plain : IsPlainText (spannedText insertionText insertionTree).toList := by
  unfold IsPlainText
  decide +kernel

lemma insertion_submits (fields : List String) :
    Submits (recordMachine fields) insertionQuery ([insertionReference].map (·.root))
      [("RC", .object 1)] [] insertionCall :=
  .once rfl rfl

lemma insertion_sends : Sends insertionCall (recordMachine ["ID"]) (.text insertionQuery)
    [(.text "\"RC.ID\"", .int 7)] := by
  have log : (insertionCall.after (recordMachine ["ID"])).database.log =
      [.connect (.text "d"), .execute (.text insertionQuery)
        (.dict [(.text "\"RC.ID\"", .int 7)])] := by with_unfolding_all rfl
  exact ⟨_, log, by simp⟩

lemma insertion_sends_all : Sends insertionCall (recordMachine ["ID", "NAME"])
    (.text insertionQuery) [(.text "\"RC.ID\"", .int 7), (.text "\"RC.NAME\"", .int 7)] := by
  have log : (insertionCall.after (recordMachine ["ID", "NAME"])).database.log =
      [.connect (.text "d"), .execute (.text insertionQuery)
        (.dict [(.text "\"RC.ID\"", .int 7), (.text "\"RC.NAME\"", .int 7)])] := by
    rw [sortEntries_pair]
    · with_unfolding_all rfl
    · decide +kernel
  exact ⟨_, log, by simp⟩

theorem single_field_matches :
    Sends insertionCall (recordMachine ["ID"]) (.text insertionQuery)
        [(.text "\"RC.ID\"", .int 7)] ∧
      ∀ key, key ∈ [(Snapshot.text "\"RC.ID\"", Snapshot.int 7)].map (·.1) ↔
        ∃ name ∈ placeholders insertionQuery, key = .text (quoted name) := by
  have words : ∀ p ∈ ([] : List String), IsWord p := nofun
  obtain ⟨-, rs, collected, agrees⟩ := values_match_placeholders_iff insertion_read (by decide)
    insertion_plain insertion_query words (insertion_submits ["ID"]) insertion_sends
  have found : collectAll insertionText ["RC"] insertionTree.children =
      .ok ([referenceTo (insertionToken .REGULAR_ID "users" 12), insertionReference].map
        .reference) := by with_unfolding_all rfl
  have same := Except.ok.inj (collected.symm.trans found)
  obtain rfl := (List.map_inj_right fun _ _ => Found.reference.inj).1 same
  have declared : declaredAmong ["RC"]
      [referenceTo (insertionToken .REGULAR_ID "users" 12), insertionReference] =
        [insertionReference] := by decide +kernel
  have parts : partsUnder (recordMachine ["ID"]) [] [("RC", .object 1)] "RC" = [some "ID"] := by
    rfl
  have field : insertionReference.field? = some "ID" := by rfl
  refine ⟨insertion_sends, agrees.2 ⟨nofun, ?_⟩⟩
  rw [declared]
  intro r member part
  obtain rfl := mem_singleton.1 member
  change part ∈ partsUnder _ _ _ "RC" ↔ _
  rw [parts]
  simp [field, eq_comm]

/-- A field that the insertion does not refer to is sent all the same. -/
theorem unused_field_sent :
    IsRead insertionText [insertionTree] ∧
      IsPlainText (spannedText insertionText insertionTree).toList ∧
      Embedded.query insertionText ["RC"] insertionTree =
        .ok (insertionQuery, [insertionReference]) ∧
      Submits (recordMachine ["ID", "NAME"]) insertionQuery ([insertionReference].map (·.root))
        [("RC", .object 1)] [] insertionCall ∧
      ∃ entries, Sends insertionCall (recordMachine ["ID", "NAME"]) (.text insertionQuery) entries ∧
        ¬ ∀ key, key ∈ entries.map (·.1) ↔
          ∃ name ∈ placeholders insertionQuery, key = .text (quoted name) := by
  refine ⟨insertion_read, insertion_plain, insertion_query, insertion_submits _, _,
    insertion_sends_all, fun agrees => ?_⟩
  obtain ⟨name, member, same⟩ := (agrees (.text "\"RC.NAME\"")).1 (by simp)
  have only : placeholders insertionQuery = ["RC.ID"] := by decide +kernel
  rw [only, mem_singleton] at member
  subst member
  exact absurd (Snapshot.text.inj same) (by decide +kernel)

end Query
end BlockScript
