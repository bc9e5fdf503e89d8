import BlockScript.Proofs.Binding

/-!
What becomes of two records after one was assigned to the other.
-/

namespace BlockScript

open Eval Library Bindings Store Machine

def Machine.readField? (m : Machine) (r : Address) (name : String) : Option Value :=
  match m.store.get? r with
  | some (.record fields) => (fields.get? name).map m.content
  | _ => none

/-- What a cell takes over when a value is assigned to it. -/
def Machine.taken? (m : Machine) : Value → Option Value
  | .none => some .null
  | .plain .solid => none
  | .object a =>
    match m.store.get? a with
    | some (.cell content) => some content
    | some (.cursor _) | some (.mock _) => none
    | some _ => some (.object a)
    | none => some .null
  | v => some v

lemma Machine.taken?_eq_none {m : Machine} (solid : m.taken? v = none) :
    v = .plain .solid ∨ ∃ a, v = .object a ∧
      ((∃ c, m.store.get? a = some (.cursor c)) ∨ ∃ k, m.store.get? a = some (.mock k)) := by
  unfold taken? at solid
  split at solid <;> try cases solid
  · exact .inl rfl
  case _ a =>
    split at solid <;> try cases solid
    case _ c found => exact .inr ⟨a, rfl, .inl ⟨c, found⟩⟩
    case _ k found => exact .inr ⟨a, rfl, .inr ⟨k, found⟩⟩

lemma Machine.taken?_none {m m' : Machine}
    (kept : ∀ a o, (∀ content, o ≠ .cell content) → (∀ fields, o ≠ .record fields) →
      m.store.get? a = some o → m'.store.get? a = some o) (solid : m.taken? v = none) :
    m'.taken? v = none := by
  rcases taken?_eq_none solid with rfl | ⟨a, rfl, ⟨_, found⟩ | ⟨_, found⟩⟩
  · rfl
  all_goals rw [taken?, kept a _ (by simp) (by simp) found]

structure Machine.Unfolds (m m' : Machine) : Prop where
  size_le : m.store.size ≤ m'.store.size
  kept : ∀ a o, (∀ fields, o ≠ .record fields) → m.store.get? a = some o →
    m'.store.get? a = some o
  fields : ∀ a fields, m.store.get? a = some (.record fields) →
    ∃ fields', m'.store.get? a = some (.record fields') ∧
      ∀ f, fields'.get? f = fields.get? f ∨
        fields.get? f = none ∧ ∃ b c, fields'.get? f = some (.object b) ∧ m.store.size ≤ b ∧
          m'.store.get? b = some (.cell c)

namespace Machine.Unfolds

lemma of_grows (grows : m.Grows m') (size_le : m.store.size ≤ m'.store.size) : Unfolds m m' where
  size_le := size_le
  kept a o _ found := grows.kept a o found
  fields a fields found := ⟨fields, grows.kept a _ found, fun _ => .inl rfl⟩

lemma refl (m) : Unfolds m m := of_grows (.refl m) (Nat.le_refl _)

lemma push (m o) : Unfolds m (m.push o) :=
  of_grows (.push m o) (by simp [Machine.push, Store.push, Store.size])

lemma trans (first : Unfolds m m') (second : Unfolds m' m'') : Unfolds m m'' where
  size_le := Nat.le_trans first.size_le second.size_le
  kept a o other found := second.kept a o other (first.kept a o other found)
  fields a fields found := by
    obtain ⟨fields', found', same⟩ := first.fields a fields found
    obtain ⟨fields'', found'', same'⟩ := second.fields a fields' found'
    refine ⟨fields'', found'', fun f => ?_⟩
    rcases same' f with equal | ⟨absent, b, c, bound, new, cell⟩
    · rw [equal]
      rcases same f with equal | ⟨absent, b, c, bound, new, cell⟩
      · exact .inl equal
      · exact .inr ⟨absent, b, c, bound, new, second.kept b _ (by simp) cell⟩
    · rcases same f with equal | ⟨_, b', _, bound', _⟩
      · rw [absent] at equal
        exact .inr ⟨equal.symm, b, c, bound, Nat.le_trans first.size_le new, cell⟩
      · grind

lemma field {fields : Bindings} (unfolds : Unfolds m m')
    (found : m.store.get? a = some (.record fields)) (bound : fields.get? f = some v) :
    ∃ fields', m'.store.get? a = some (.record fields') ∧ fields'.get? f = some v := by
  obtain ⟨fields', found', same⟩ := unfolds.fields a fields found
  refine ⟨fields', found', ?_⟩
  rcases same f with equal | ⟨absent, -⟩
  · exact equal.trans bound
  · grind

end Machine.Unfolds

namespace Eval

variable {new : Value} {content : Value}

lemma member_record {fields : Bindings} (found : m.store.get? r = some (.record fields))
    (read : Library.member (.object r) name m = .ok old m') :
    m.Unfolds m' ∧ (old = .method r .recordKeys ∨
      ∃ fields', m'.store.get? r = some (.record fields') ∧ fields'.get? name = some old) := by
  rw [Library.member, bind_ok (load?_eq m r), found] at read
  dsimp only at read
  by_cases keys : (name == "keys") = true
  · rw [if_pos keys] at read
    cases read
    exact ⟨.refl m, .inl rfl⟩
  rw [if_neg keys, Record.field] at read
  cases absent : fields.get? name with
  | some v =>
    rw [absent] at read
    cases read
    exact ⟨.refl m, .inr ⟨fields, found, absent⟩⟩
  | none =>
    rw [absent] at read
    dsimp only at read
    cases read
    have inside : r < (m.push (.cell .null)).store.size :=
      Store.lt_size_of_get? ((Unfolds.push m _).fields r fields found).choose_spec.1
    have here : ((m.push (.cell .null)).put r
        (.record (fields.set name (.object m.store.size)))).store.get? r = _ :=
      Store.get?_set_self _ _ inside
    have cell : ((m.push (.cell .null)).put r
        (.record (fields.set name (.object m.store.size)))).store.get? m.store.size =
          some (.cell .null) := by
      have other : r ≠ m.store.size := Nat.ne_of_lt (Store.lt_size_of_get? found)
      exact (Store.get?_set_of_ne _ _ other).trans (m.get?_push_size _)
    refine ⟨?_, .inr ⟨_, here, Bindings.get?_set_self _ _ _⟩⟩
    constructor
    · simp [Store.push, Store.set, Store.size]
    · intro b o other kept
      have ne : r ≠ b := by
        rintro rfl
        grind
      exact (Store.get?_set_of_ne _ _ ne).trans ((Grows.push m _).kept b o kept)
    · intro b others kept
      by_cases same : r = b
      · subst same
        cases found.symm.trans kept
        refine ⟨_, here, fun f => ?_⟩
        by_cases this : f = name
        · subst this
          exact .inr ⟨absent, _, _, Bindings.get?_set_self _ _ _, Nat.le_refl _, cell⟩
        · exact .inl (Bindings.get?_set_of_ne _ _ this)
      · exact ⟨others, (Store.get?_set_of_ne _ _ same).trans
          ((Grows.push m _).kept b _ kept), fun _ => .inl rfl⟩

lemma wrap_taken (taken : m.taken? v = some new) :
    ∃ b m1, wrap v m = .ok (.object b) m1 ∧ m.Unfolds m1 ∧ m1.store.get? b = some (.cell new) := by
  have fresh (w) : ∃ b m1, Eval.new (.cell w) m = .ok (.object b) m1 ∧ m.Unfolds m1 ∧
      m1.store.get? b = some (.cell w) :=
    ⟨_, _, new_eq _ m, .push m _, m.get?_push_size _⟩
  cases v with
  | object b =>
    rw [wrap, bind_ok (load?_eq m b)]
    unfold taken? at taken
    dsimp only at taken
    split at taken
    case _ content found =>
      cases taken
      rw [found]
      exact ⟨b, m, rfl, .refl m, found⟩
    case _ => cases taken
    case _ => cases taken
    case _ o noCell noCursor noMock found =>
      cases taken
      have made := fresh (.object b)
      rw [found]
      cases o with
      | cell content => exact absurd rfl (noCell content)
      | cursor c => exact absurd rfl (noCursor c)
      | mock k => exact absurd rfl (noMock k)
      | _ => exact made
    case _ found =>
      cases taken
      rw [found]
      exact fresh .null
  | plain c => cases c <;> first | cases taken; exact fresh _ | cases taken
  | _ =>
    cases taken
    exact fresh _

lemma wrap_solid (solid : m.taken? v = none) : wrap v m = .ok v m ∧ cell? v m = .ok none m := by
  rcases taken?_eq_none solid with rfl | ⟨b, rfl, ⟨_, found⟩ | ⟨_, found⟩⟩
  · exact ⟨rfl, rfl⟩
  all_goals
    rw [wrap, bind_ok (load?_eq m b), cell?, bind_ok (load?_eq m b), found]
    exact ⟨rfl, rfl⟩

lemma assign_taken (found : m.store.get? a = some (.cell content)) (taken : m.taken? v = some new) :
    ∃ m1, m.Unfolds m1 ∧ assign (.object a) v m = .ok (.object a) (m1.put a (.cell new)) := by
  obtain ⟨b, m1, wrapped, unfolds, cell⟩ := wrap_taken taken
  refine ⟨m1, unfolds, ?_⟩
  rw [assign, bind_ok (load?_eq m a), found]
  dsimp only
  rw [bind_ok wrapped, bind_ok (cell?_cell cell)]
  rfl

lemma assign_to_cell (found : m.store.get? a = some (.cell content))
    (assigned : assign (.object a) v m = .ok new m') :
    (∃ c m1, m.taken? v = some c ∧ new = .object a ∧ m.Unfolds m1 ∧ m' = m1.put a (.cell c)) ∨
      m.taken? v = none ∧ new = v ∧ m' = m := by
  cases taken : m.taken? v with
  | some c =>
    obtain ⟨m1, unfolds, result⟩ := assign_taken found taken
    cases result.symm.trans assigned
    exact .inl ⟨c, m1, rfl, rfl, unfolds, rfl⟩
  | none =>
    obtain ⟨wrapped, noCell⟩ := wrap_solid taken
    rw [assign, bind_ok (load?_eq m a), found] at assigned
    dsimp only at assigned
    rw [bind_ok wrapped, bind_ok noCell] at assigned
    cases assigned
    exact .inr ⟨rfl, rfl, rfl⟩

lemma assign_to_solid (solid : m.taken? old = none) : assign old v m ≠ .ok new m' := by
  intro assigned
  rcases taken?_eq_none solid with rfl | ⟨b, rfl, ⟨_, found⟩ | ⟨_, found⟩⟩
  · cases assigned
  all_goals
    rw [assign, bind_ok (load?_eq m b), found] at assigned
    cases assigned

end Eval

open Run
open Target (Expr)

/-- Assignments to fields of the record at an address, one after the other, with what the cell of
each field was to take over. -/
inductive FieldUpdates (r : Address) :
    Machine → List (String × Option Value) → Machine → Prop where
  | nil (m : Machine) : FieldUpdates r m [] m
  | cons {place : Place} {steps : Nat} {owner value : Expr} {name : String} {old v : Value}
      {flow : Flow} {m m₁ m₂ m₃ m₄ m' : Machine} {writes : List (String × Option Value)}
      (found : evaluate place steps owner m = .ok (.object r) m₁) (finding : m.Unfolds m₁)
      (read : member (.object r) name m₁ = .ok old m₂)
      (given : evaluate place steps value m₂ = .ok v m₃) (giving : m₂.Unfolds m₃)
      (run : execute place (steps + 1) (.update (.attribute owner name) value) m = .ok flow m₄)
      (rest : FieldUpdates r m₄ writes m') :
      FieldUpdates r m ((name, m₃.taken? v) :: writes) m'

def sameCell (fields : Bindings) (f g : String) : Bool :=
  match fields.get? f, fields.get? g with
  | some (.object a), some (.object b) => a == b
  | _, _ => false

def lastTaken (fields : Bindings) (f : String) : List (String × Option Value) → Option Value
  | [] => none
  | (g, taken) :: rest =>
    (lastTaken fields f rest).or (if sameCell fields f g then taken else none)

/-- Two records have the cells of some fields in common. -/
structure Shares (fields : Bindings) (room : Nat) (written kept : Address) (m : Machine) :
    Prop where
  cells : ∀ f v, fields.get? f = some v →
    ∃ a c, v = .object a ∧ a < room ∧ m.store.get? a = some (.cell c)
  room_le : room ≤ m.store.size
  kept : ∃ fields', m.store.get? kept = some (.record fields') ∧
    ∀ f v, fields.get? f = some v → fields'.get? f = some v
  written : ∃ fields', m.store.get? written = some (.record fields') ∧
    (∀ f, fields'.get? f = none → fields.get? f = none) ∧
    ∀ f v, fields'.get? f = some v → fields.get? f = some v ∨ m.taken? v = none ∨
      fields.get? f = none ∧ ∃ b c, v = .object b ∧ room ≤ b ∧ m.store.get? b = some (.cell c)

variable {m : Machine} {fields : Bindings}

section

variable {fields : Bindings} {written kept : Address}

lemma Shares.read (shares : Shares fields room written kept m)
    (bound : fields.get? f = some (.object a)) (found : m.store.get? a = some (.cell c)) :
    m.readField? kept f = some c := by
  obtain ⟨fields', record, same⟩ := shares.kept
  unfold readField?
  rw [record]
  simp [same f _ bound, content, objectAt?, found]

lemma Shares.unfold (shares : Shares fields room written kept m) (unfolds : m.Unfolds m') :
    Shares fields room written kept m' ∧
      ∀ f v, fields.get? f = some v → m'.readField? kept f = m.readField? kept f := by
  have after : Shares fields room written kept m' := by
    constructor
    · intro f v bound
      obtain ⟨a, c, is, inside, found⟩ := shares.cells f v bound
      exact ⟨a, c, is, inside, unfolds.kept a _ (by simp) found⟩
    · exact Nat.le_trans shares.room_le unfolds.size_le
    · obtain ⟨fields', found, same⟩ := shares.kept
      obtain ⟨fields'', found', same'⟩ := unfolds.fields kept fields' found
      refine ⟨fields'', found', fun f v bound => ?_⟩
      rcases same' f with equal | ⟨absent, -⟩
      · rw [equal, same f v bound]
      · grind
    · obtain ⟨fields', found, none_, some_⟩ := shares.written
      obtain ⟨fields'', found', same'⟩ := unfolds.fields written fields' found
      refine ⟨fields'', found', fun f absent => ?_, fun f v bound => ?_⟩
      · grind
      · rcases same' f with equal | ⟨new, b, c, bound', fresh, cell⟩
        · have before := some_ f v (equal.symm.trans bound)
          rcases before with common | solid | ⟨own, b, c, is, high, cell⟩
          · exact .inl common
          · exact .inr (.inl (taken?_none (fun b o _ => unfolds.kept b o) solid))
          · exact .inr (.inr ⟨own, b, c, is, high, unfolds.kept b _ (by simp) cell⟩)
        · rw [bound'] at bound
          cases bound
          exact .inr (.inr ⟨none_ f new, b, c, rfl, Nat.le_trans shares.room_le fresh, cell⟩)
  refine ⟨after, fun f v bound => ?_⟩
  obtain ⟨a, c, rfl, inside, found⟩ := shares.cells f v bound
  rw [shares.read bound found, after.read bound (unfolds.kept a _ (by simp) found)]

lemma Machine.get?_put (found : m.store.get? a = some old) :
    (m.put a o).store.get? b = if b = a then some o else m.store.get? b := by
  split
  case isTrue same =>
    subst same
    exact get?_set_self _ _ (lt_size_of_get? found)
  case isFalse ne => exact get?_set_of_ne _ _ (Ne.symm ne)

lemma Shares.put_cell (shares : Shares fields room written kept m)
    (found : m.store.get? a = some (.cell d)) :
    Shares fields room written kept (m.put a (.cell c)) ∧ ∀ f b, fields.get? f = some (.object b) →
        (m.put a (.cell c)).readField? kept f = if b = a then some c else m.readField? kept f := by
  have cell_of (b e) (held : m.store.get? b = some (.cell e)) :
      (m.put a (.cell c)).store.get? b = some (.cell (if b = a then c else e)) := by
    rw [Machine.get?_put found]
    split <;> simp [held]
  have record_of (b fields') (held : m.store.get? b = some (.record fields')) :
      (m.put a (.cell c)).store.get? b = some (.record fields') := by
    rw [Machine.get?_put found, if_neg, held]
    rintro rfl
    cases found.symm.trans held
  have after : Shares fields room written kept (m.put a (.cell c)) := by
    constructor
    · intro f v bound
      obtain ⟨b, e, is, inside, held⟩ := shares.cells f v bound
      exact ⟨b, _, is, inside, cell_of b e held⟩
    · simpa [Machine.put, Store.set, Store.size] using shares.room_le
    · obtain ⟨fields', held, same⟩ := shares.kept
      exact ⟨fields', record_of kept fields' held, same⟩
    · obtain ⟨fields', held, none_, some_⟩ := shares.written
      refine ⟨fields', record_of written fields' held, none_, fun f v bound => ?_⟩
      rcases some_ f v bound with common | solid | ⟨own, b, e, is, high, cell⟩
      · exact .inl common
      · refine .inr (.inl (Machine.taken?_none (fun b o noCell _ held => ?_) solid))
        rw [Machine.get?_put found, if_neg, held]
        rintro rfl
        exact noCell _ (Option.some.inj (held.symm.trans found))
      · exact .inr (.inr ⟨own, b, _, is, high, cell_of b e cell⟩)
  refine ⟨after, fun f b bound => ?_⟩
  obtain ⟨b', e, is, inside, held⟩ := shares.cells f _ bound
  cases is
  rw [after.read bound (cell_of b e held), shares.read bound held]
  split <;> rfl

lemma Shares.put_field (shares : Shares fields room written kept m) (apart : written ≠ kept)
    (found : m.store.get? written = some (.record fields'))
    (allowed : fields'.get? name = some v ∨ m.taken? v = none) :
    Shares fields room written kept (m.put written (.record (fields'.set name v))) ∧
      ∀ f w, fields.get? f = some w →
        (m.put written (.record (fields'.set name v))).readField? kept f = m.readField? kept f := by
  have other (b o) (noRecord : ∀ entries, o ≠ .record entries) (held : m.store.get? b = some o) :
      (m.put written (.record (fields'.set name v))).store.get? b = some o := by
    rw [Machine.get?_put found, if_neg, held]
    rintro rfl
    grind
  have solid_of (w solid) : (m.put written (.record (fields'.set name v))).taken? w = none :=
    Machine.taken?_none (fun b o _ => other b o) solid
  have after : Shares fields room written kept (m.put written (.record (fields'.set name v))) := by
    obtain ⟨fields'', held, none_, some_⟩ := shares.written
    cases found.symm.trans held
    constructor
    · intro f w bound
      obtain ⟨b, e, is, inside, cell⟩ := shares.cells f w bound
      exact ⟨b, e, is, inside, other b _ (by simp) cell⟩
    · simpa [Machine.put, Store.set, Store.size] using shares.room_le
    · obtain ⟨entries, record, same⟩ := shares.kept
      refine ⟨entries, ?_, same⟩
      rw [Machine.get?_put found, if_neg (Ne.symm apart), record]
    · refine ⟨_, by rw [Machine.get?_put found, if_pos rfl], fun f absent => ?_,
        fun f w bound => ?_⟩
      · by_cases this : f = name
        · subst this
          rw [Bindings.get?_set_self] at absent
          cases absent
        · exact none_ f ((Bindings.get?_set_of_ne _ _ this).symm.trans absent)
      · have was : fields'.get? f = some w ∨ m.taken? w = none := by
          by_cases this : f = name
          · subst this
            rw [Bindings.get?_set_self] at bound
            cases bound
            exact allowed
          · exact .inl ((Bindings.get?_set_of_ne _ _ this).symm.trans bound)
        rcases was with before | solid
        · grind
        · exact .inr (.inl (solid_of w solid))
  refine ⟨after, fun f w bound => ?_⟩
  obtain ⟨b, e, rfl, inside, cell⟩ := shares.cells f w bound
  rw [shares.read bound cell, after.read bound (other b _ (by simp) cell)]

lemma execute_fieldUpdate (found : evaluate place steps owner m = .ok (.object r) m1)
    (read : member (.object r) name m1 = .ok old m2)
    (given : evaluate place steps value m2 = .ok v m3) :
    execute place (steps + 1) (.update (.attribute owner name) value) m = (do
        setMember (.object r) name (← assign old v)
        return Flow.next : Eval Flow) m3 := by
  exact (bind_ok found).trans ((bind_ok read).trans (bind_ok given))

lemma Shares.update (shares : Shares fields room written kept m) (apart : written ≠ kept)
    (found : evaluate place steps owner m = .ok (.object written) m1) (finding : m.Unfolds m1)
    (read : member (.object written) name m1 = .ok old m2)
    (given : evaluate place steps value m2 = .ok v m3) (giving : m2.Unfolds m3)
    (run : execute place (steps + 1) (.update (.attribute owner name) value) m = .ok flow m') :
    Shares fields room written kept m' ∧ ∀ f w, fields.get? f = some w → m'.readField? kept f =
        (if sameCell fields f name then m3.taken? v else none).or (m.readField? kept f) := by
  rw [execute_fieldUpdate found read given] at run
  obtain ⟨new, m4, assigned, stored⟩ := ok_of_bind run
  obtain ⟨fields1, record1, -⟩ := (shares.unfold finding).1.written
  obtain ⟨reading, asked⟩ := member_record record1 read
  obtain ⟨shares3, read3⟩ := shares.unfold ((finding.trans reading).trans giving)
  rcases asked with rfl | ⟨fields2, record2, bound2⟩
  · cases assigned
  obtain ⟨fields3, record3, bound3⟩ := giving.field record2 bound2
  -- What stood in the field: a common cell, a cell of its own, or what nothing is assigned over.
  have cell : ∃ a d, old = .object a ∧ m3.store.get? a = some (.cell d) ∧
      ∀ f b, fields.get? f = some (.object b) → (sameCell fields f name = true ↔ b = a) := by
    obtain ⟨fields', held, -, some_⟩ := shares3.written
    cases record3.symm.trans held
    rcases some_ name old bound3 with common | solid | ⟨own, b, d, rfl, high, cell⟩
    · obtain ⟨a, d, rfl, inside, cell⟩ := shares3.cells name old common
      exact ⟨a, d, rfl, cell, fun f b bound => by simp [sameCell, bound, common]⟩
    · exact absurd assigned (assign_to_solid solid)
    · refine ⟨b, d, rfl, cell, fun f b' bound => ?_⟩
      obtain ⟨a, _, is, inside, _⟩ := shares3.cells f _ bound
      cases is
      simp only [sameCell, bound, own, Bool.false_eq_true, false_iff]
      rintro rfl
      exact absurd high (Nat.not_le.2 inside)
  obtain ⟨a, d, rfl, held, same⟩ := cell
  have setMember_eq {m5 : Machine} {entries}
      (record : m5.store.get? written = some (.record entries)) :
      setMember (.object written) name new m5 =
        .ok () (m5.put written (.record (entries.set name new))) := by
    rw [setMember, bind_ok (load?_eq _ _), record]
    rfl
  rcases assign_to_cell held assigned with ⟨c, m5, taken, rfl, unfolds, rfl⟩ | ⟨solid, rfl, rfl⟩
  · obtain ⟨shares5, read5⟩ := shares3.unfold unfolds
    obtain ⟨shares6, read6⟩ := shares5.put_cell (unfolds.kept a _ (by simp) held)
    obtain ⟨fields5, record5, bound5⟩ := unfolds.field record3 bound3
    have record6 : (m5.put a (.cell c)).store.get? written = some (.record fields5) := by
      rw [get?_put (unfolds.kept a _ (by simp) held), if_neg, record5]
      rintro rfl
      cases record3.symm.trans held
    rw [bind_ok (setMember_eq record6)] at stored
    cases stored
    obtain ⟨shares', read'⟩ := shares6.put_field apart record6 (.inl bound5)
    refine ⟨shares', fun f w bound => ?_⟩
    obtain ⟨b, e, rfl, -, -⟩ := shares.cells f w bound
    rw [read' f _ bound, read6 f b bound, read5 f _ bound, read3 f _ bound, taken]
    by_cases this : b = a
    · simp [this, (same f b bound).2 this]
    · have differ : sameCell fields f name = false := by
        rw [← Bool.not_eq_true, same f b bound]
        exact this
      simp [this, differ]
  · rw [bind_ok (setMember_eq record3)] at stored
    cases stored
    obtain ⟨shares', read'⟩ := shares3.put_field apart record3 (.inr solid)
    refine ⟨shares', fun f w bound => ?_⟩
    rw [read' f w bound, read3 f w bound, solid]
    simp

/-- After a run of assignments to fields of the one record, a common field of the other reads what
its cell took over last. -/
lemma Shares.updates (apart : written ≠ kept) (updates : FieldUpdates written m writes m')
    (shares : Shares fields room written kept m) (bound : fields.get? f = some v) :
    m'.readField? kept f = (lastTaken fields f writes).or (m.readField? kept f) := by
  induction updates with
  | nil m => rfl
  | cons found finding read given giving run rest ih =>
    obtain ⟨shares', step⟩ := shares.update apart found finding read given giving run
    rw [ih shares', step f v bound, lastTaken, Option.or_assoc]

end

lemma assign_record (given : m.store.get? src = some (.record fields))
    (held : m.store.get? target = some (.record old)) :
    assign (.object target) (.object src) m =
      .ok (.object target) (m.put target (.record fields)) := by
  rw [assign, bind_ok (load?_eq m target), held]
  dsimp only
  rw [bind_ok (objectOf?_object given)]
  rfl

lemma shares_of_assign {written kept : Address} (ne : source ≠ target)
    (given : m.store.get? source = some (.record fields))
    (held : m.store.get? target = some (.record old))
    (scalars : ∀ f v, fields.get? f = some v → ∃ a c, v = .object a ∧ m.store.get? a = some (.cell c))
    (roles : (written, kept) = (target, source) ∨ (written, kept) = (source, target)) :
    Shares fields m.store.size written kept (m.put target (.record fields)) ∧
      ∀ f v, fields.get? f = some v →
        (m.put target (.record fields)).readField? kept f = m.readField? source f := by
  have record : ∀ r ∈ [source, target],
      (m.put target (.record fields)).store.get? r = some (.record fields) := by
    intro r mem
    rw [Machine.get?_put held]
    split
    case isTrue => rfl
    case isFalse other =>
      obtain rfl : r = source := by simpa [other] using mem
      exact given
  have cell (a c) (found : m.store.get? a = some (.cell c)) :
      (m.put target (.record fields)).store.get? a = some (.cell c) := by
    rw [Machine.get?_put held, if_neg, found]
    rintro rfl
    cases held.symm.trans found
  have places : written ∈ [source, target] ∧ kept ∈ [source, target] := by
    rcases roles with same | same <;> cases same <;> simp
  have shares : Shares fields m.store.size written kept (m.put target (.record fields)) := by
    constructor
    · intro f v bound
      obtain ⟨a, c, is, found⟩ := scalars f v bound
      exact ⟨a, c, is, Store.lt_size_of_get? found, cell a c found⟩
    · simp [Machine.put, Store.set, Store.size]
    · exact ⟨fields, record kept places.2, fun _ _ bound => bound⟩
    · grind
  refine ⟨shares, fun f v bound => ?_⟩
  obtain ⟨a, c, rfl, found⟩ := scalars f v bound
  rw [shares.read bound (cell a c found), Machine.readField?, given]
  simp [bound, Machine.content, Machine.objectAt?, found]

lemma Bindings.mem_names_iff {b : Bindings} : name ∈ b.names ↔ ∃ v, b.get? name = some v := by
  induction b with
  | nil => simp [names, get?]
  | cons entry rest ih =>
    obtain ⟨other, v⟩ := entry
    by_cases same : name = other
    · simp [names, get?, same]
    · have differ : (name == other) = false := by simp [same]
      simpa [names, get?, List.lookup, same, differ] using ih

/-- A record is assigned to another one, and then fields of one of the two are. The other one reads
in each field of the source what it read before exactly if what the field's cell took over last, by
whatever name, is that. -/
theorem copied_fields_kept_iff {m m₁ m' : Machine} {source target written kept : Address}
    {fields old : Bindings} {v : Value} {writes : List (String × Option Value)}
    (distinct : source ≠ target) (given : m.store.get? source = some (.record fields))
    (held : m.store.get? target = some (.record old))
    (scalars : ∀ f v, fields.get? f = some v →
      ∃ a c, v = .object a ∧ m.store.get? a = some (.cell c))
    (copied : assign (.object target) (.object source) m = .ok v m₁)
    (roles : (written, kept) = (target, source) ∨ (written, kept) = (source, target))
    (updates : FieldUpdates written m₁ writes m') :
    (∀ f ∈ fields.names, m'.readField? kept f = m.readField? source f) ↔
      ∀ f ∈ fields.names, ∀ c, lastTaken fields f writes = some c →
        m.readField? source f = some c := by
  rw [assign_record given held] at copied
  cases copied
  obtain ⟨shares, before⟩ := shares_of_assign distinct given held scalars roles
  have apart : written ≠ kept := by
    rcases roles with same | same <;> cases same
    · exact Ne.symm distinct
    · exact distinct
  refine forall_congr' fun f => forall_congr' fun member => ?_
  obtain ⟨w, bound⟩ := Bindings.mem_names_iff.1 member
  rw [Shares.updates apart updates shares bound, before f w bound]
  cases last : lastTaken fields f writes with
  | none => simp
  | some c =>
    simp only [Option.some_or, Option.some.injEq, forall_eq']
    exact eq_comm

def twoRecords : Machine where
  store := ⟨#[.cell (.int 0), .cell (.int 1), .record [("ID", .object 1)], .record []]⟩
  globals := [("R1", .object 2), ("R2", .object 3), ("m", .routine .wrap)]

def numberAssigned (name : String) (n : Int) : Target.Stmt :=
  .update (.attribute (.name "R2") name) (.call (.name "m") [.constant (.int n)])

lemma fieldUpdates_number (name) (n : Int)
    (found : evaluate {} 4 (.name "R2") m = .ok (.object r) m)
    (read : member (.object r) name m = .ok old m2)
    (given : evaluate {} 4 (.call (.name "m") [.constant (.int n)]) m2 =
      .ok (.object m2.store.size) (m2.push (.cell (.int n))))
    (run : execute {} 5 (numberAssigned name n) m = .ok flow m') :
    FieldUpdates r m [(name, some (.int n))] m' := by
  have taken : (m2.push (.cell (.int n))).taken? (.object m2.store.size) = some (.int n) := by
    simp only [Machine.taken?, Machine.get?_push_size]
  rw [← taken]
  exact .cons found (.refl m) read given (.push _ _) run (.nil _)

theorem new_field_kept :
    ∃ m₁ m', assign (.object 3) (.object 2) twoRecords = .ok (.object 3) m₁ ∧
      execute {} 5 (numberAssigned "NAME" 2) m₁ = .ok .next m' ∧
      FieldUpdates 3 m₁ [("NAME", some (.int 2))] m' ∧
      ∀ f ∈ Bindings.names [("ID", .object 1)], m'.readField? 2 f = twoRecords.readField? 2 f := by
  have updates : FieldUpdates 3 (twoRecords.put 3 (.record [("ID", .object 1)]))
      [("NAME", some (.int 2))] _ :=
    fieldUpdates_number "NAME" 2 rfl rfl rfl rfl
  refine ⟨_, _, rfl, rfl, updates, ?_⟩
  refine (copied_fields_kept_iff (by decide) rfl rfl ?_ rfl (.inl rfl) updates).2 ?_
  · intro f v bound
    obtain rfl : f = "ID" := by
      simpa [Bindings.names] using Bindings.mem_names_iff.2 ⟨v, bound⟩
    cases bound
    exact ⟨1, _, rfl, rfl⟩
  · intro f member c last
    obtain rfl : f = "ID" := by simpa [Bindings.names] using member
    cases last

/-- An assignment to the field that was handed over is read in the first record. -/
theorem common_field_changed :
    ∃ m₁ m', assign (.object 3) (.object 2) twoRecords = .ok (.object 3) m₁ ∧
      execute {} 5 (numberAssigned "ID" 2) m₁ = .ok .next m' ∧
      FieldUpdates 3 m₁ [("ID", some (.int 2))] m' ∧
      twoRecords.readField? 2 "ID" = some (.int 1) ∧ m'.readField? 2 "ID" = some (.int 2) := by
  have updates : FieldUpdates 3 (twoRecords.put 3 (.record [("ID", .object 1)]))
      [("ID", some (.int 2))] _ :=
    fieldUpdates_number "ID" 2 rfl rfl rfl rfl
  exact ⟨_, _, rfl, rfl, updates, rfl, rfl⟩

end BlockScript
