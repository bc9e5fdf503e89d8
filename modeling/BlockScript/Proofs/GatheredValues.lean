import BlockScript.Proofs.Agreement

/-!
Opening a cursor gathers the values of its query all or nothing. If an argument or a variable is
missing, nothing happens at all; otherwise the query is executed once, with a value for each
parameter and for each part of its other names.
-/

namespace BlockScript.Query

open Eval

/-- What a query is executed with: the arguments under the names of the parameters, and the
variables under the names that no parameter has, a record field by field. -/
inductive Gathers (m : Machine) (parameters roots : List String) (items : List Value)
    (vars : Bindings) : String → Value → Prop where
  | argument {i : Nat} (parameter : parameters[i]? = some name) (given : items[i]? = some v) :
      Gathers m parameters roots items vars (quoted name) (m.content v)
  | whole (named : root ∈ roots) (isOther : root ∉ parameters) (known : vars.get? root = some v)
      (scalar : m.fields? v = none) :
      Gathers m parameters roots items vars (quoted root) (m.content v)
  | field (named : root ∈ roots) (isOther : root ∉ parameters) (known : vars.get? root = some v)
      (record : m.fields? v = some fields) (has : (name, w) ∈ fields) :
      Gathers m parameters roots items vars (quoted (root ++ "." ++ name)) (m.content w)

variable {m m₁ : Machine} {a b p g l : Address} {c : Cursor} {parameters roots : List String}

lemma mem_localValues : (key, v) ∈ localValues m parameters vars root ↔
    root ∉ parameters ∧ ∃ u, vars.get? root = some u ∧ (key, v) ∈ valuesOf m root u := by
  unfold localValues
  cases vars.get? root <;> simp

lemma mem_gathered :
    (key, v) ∈ gathered m parameters roots items vars ↔
      Gathers m parameters roots items vars key v := by
  rw [gathered, mem_append, mem_map, List.mem_flatMap]
  constructor
  · rintro (⟨⟨p, u⟩, inside, same⟩ | ⟨root, named, bound⟩)
    · obtain ⟨i, place⟩ := List.mem_iff_getElem?.1 inside
      obtain ⟨parameter, given⟩ := List.getElem?_zip_eq_some.1 place
      cases same
      exact .argument parameter given
    · obtain ⟨isOther, u, known, bound⟩ := mem_localValues.1 bound
      unfold valuesOf at bound
      split at bound
      case _ fields record =>
        obtain ⟨⟨name, w⟩, has, same⟩ := mem_map.1 bound
        cases same
        exact .field named isOther known record has
      case _ scalar =>
        cases mem_singleton.1 bound
        exact .whole named isOther known scalar
  · intro gathers
    cases gathers with
    | @argument name v i parameter given =>
      exact .inl ⟨(name, v), List.mem_iff_getElem?.2 ⟨i, List.getElem?_zip_eq_some.2
        ⟨parameter, given⟩⟩, rfl⟩
    | whole named isOther known scalar =>
      refine .inr ⟨_, named, mem_localValues.2 ⟨isOther, _, known, ?_⟩⟩
      simp [valuesOf, scalar]
    | field named isOther known record has =>
      refine .inr ⟨_, named, mem_localValues.2 ⟨isOther, _, known, ?_⟩⟩
      simp only [valuesOf, record]
      exact mem_map.2 ⟨_, has, rfl⟩

/-- Names without a dot, each parameter with a name of its own and each field with one, leave no
choice. -/
lemma Gathers.unique (ne : parameters.Nodup)
    (dotless : ∀ name ∈ parameters ++ roots, '.' ∉ name.toList)
    (single : ∀ v fields, m.fields? v = some fields → fields.names.Nodup)
    (first : Gathers m parameters roots items vars key v)
    (second : Gathers m parameters roots items vars key w) : v = w := by
  have inj {root root'} (part part')
      (is : root ∈ parameters ∨ root ∈ roots) (is' : root' ∈ parameters ∨ root' ∈ roots)
      (same : quoted (partName root part) = quoted (partName root' part')) :
      root = root' ∧ part = part' :=
    partName_inj (dotless root (mem_append.2 is)) (dotless root' (mem_append.2 is'))
      (quoted_inj.1 same)
  have among {i} {name} (parameter) : name ∈ parameters := List.mem_iff_getElem?.2 ⟨i, parameter⟩
  generalize is : key = other at second
  cases first with
  | @argument name v i parameter given =>
    cases second with
    | @argument name' w j parameter' given' =>
      obtain ⟨rfl, -⟩ := inj none none (.inl (among parameter)) (.inl (among parameter')) is
      obtain rfl := (List.getElem?_inj (List.getElem?_eq_some_iff.1 parameter).1 ne).1
        (parameter.trans parameter'.symm)
      cases given.symm.trans given'
      rfl
    | whole named isOther =>
      obtain ⟨rfl, -⟩ := inj none none (.inl (among parameter)) (.inr named) is
      exact absurd (among parameter) isOther
    | field named =>
      cases (inj none (some _) (.inl (among parameter)) (.inr named) is).2
  | whole named isOther known scalar =>
    cases second with
    | argument parameter =>
      obtain ⟨rfl, -⟩ := inj none none (.inr named) (.inl (among parameter)) is
      exact absurd (among parameter) isOther
    | whole named' _ known' =>
      obtain ⟨rfl, -⟩ := inj none none (.inr named) (.inr named') is
      cases known.symm.trans known'
      rfl
    | field named' => cases (inj none (some _) (.inr named) (.inr named') is).2
  | field named _ known record has =>
    cases second with
    | argument parameter =>
      cases (inj (some _) none (.inr named) (.inl (among parameter)) is).2
    | whole named' => cases (inj (some _) none (.inr named) (.inr named') is).2
    | field named' _ known' record' has' =>
      obtain ⟨rfl, same⟩ := inj (some _) (some _) (.inr named) (.inr named') is
      cases same
      cases known.symm.trans known'
      cases record.symm.trans record'
      cases List.inj_on_of_nodup_map (single _ _ record) has has' rfl
      rfl

lemma log_openWith (held : m.store.get? a = some (.cursor c))
    (bound : bind c arguments locals m = .ok binds m)
    (connected : Connect.top m = .ok connection m₁) :
    ∃ s, (∀ b, b < m₁.store.size → b ≠ a → s.get? b = m₁.store.get? b) ∧
      ((openWith a arguments locals).after m).database.log =
        m₁.database.log ++ [.execute (.take s c.query) (.dict (logged s binds))] := by
  let m2 := (m₁.push (.execution { binds })).put a (.cursor { c with execution := some m₁.store.size })
  have made : allocate (.execution { binds }) m₁ = .ok m₁.store.size (m₁.push _) := rfl
  refine ⟨(m2.put m₁.store.size (.execution { binds })).store, fun b old other => ?_, ?_⟩
  · refine (Store.get?_set_of_ne m2.store _ (Nat.ne_of_gt old)).trans ?_
    exact (Store.get?_set_of_ne _ _ other.symm).trans (Store.get?_push_of_lt _ _ old)
  rw [openWith, after_bind (cursorAt_eq held), after_bind bound, after_bind connected, after_bind made,
    after_bind (put_eq a _ _)]
  refine (log_bind_quiet fun _ m3 _ => ?_).trans
    (log_execute connection.id m₁.store.size c.query binds m2)
  exact (keeps_executionAt m₁.store.size).logs.bind fun _ m4 _ => .silent rfl

/-- A cursor is opened with all values of its query or not at all. If an argument or a variable is
missing, the machine stays as it is. Otherwise, and if there is a connection, the query is executed
once, with the values that belong to it and no others. -/
theorem opened_with_all_or_nothing (held : m.store.get? a = some (.cursor c))
    (isList : c.parameters = .object p)
    (listed : m.store.get? p = some (.list (parameters.map .text)))
    (isNames : c.binds = .object b) (named : m.store.get? b = some (.list (roots.map .text)))
    (given : m.store.get? g = some (.list items))
    (visible : m.store.get? l = some (.dict (vars.map fun v => (.text v.1, v.2)))) :
    ((items.length < parameters.length ∨
        ∃ root ∈ roots, root ∉ parameters ∧ vars.get? root = none) →
      ∃ cause, openWith a (.object g) (.object l) m = .error (.failed cause) m) ∧
    (parameters.length ≤ items.length →
      (∀ root ∈ roots, root ∉ parameters → vars.get? root ≠ none) →
      ∀ connection m₁, Connect.top m = .ok connection m₁ → ∃ binds before s,
        (∀ key v, (key, v) ∈ binds → Gathers m parameters roots items vars key v) ∧
        (∀ key v, Gathers m parameters roots items vars key v → key ∈ Bindings.names binds) ∧
        (parameters.Nodup → (∀ name ∈ parameters ++ roots, '.' ∉ name.toList) →
          (∀ v fields, m.fields? v = some fields → fields.names.Nodup) →
          ∀ key v, Gathers m parameters roots items vars key v → binds.Maps key v) ∧
        (∀ e ∈ before, ∃ target, e = .connect target) ∧
        (∀ b : Nat, b < m₁.store.size → b ≠ a → Store.get? s b = m₁.store.get? b) ∧
        ((openWith a (.object g) (.object l)).after m).database.log = m.database.log ++ before ++
          [.execute (.take s c.query) (.dict (logged s binds))]) := by
  have bound := bind_cases listed visible isList isNames named given
  constructor
  · intro missing
    rcases bound with ⟨⟨enough, known⟩, -⟩ | ⟨-, cause, failed⟩
    · rcases missing with few | ⟨root, inside, isOther, none⟩
      · exact absurd enough (Nat.not_le.2 few)
      · exact absurd ⟨isOther, none⟩ (known root inside)
    · exact ⟨cause, (bind_ok (cursorAt_eq held)).trans (bind_error failed)⟩
  · intro enough known connection m₁ connected
    rcases bound with ⟨-, bound⟩ | ⟨lacks, -⟩
    · obtain ⟨s, others, logged⟩ := log_openWith held bound connected
      obtain ⟨before, grown, connects⟩ := logs_top (m := m)
      rw [after, connected] at grown
      have inside {key} {v}
          (gathers : Gathers m parameters roots items vars key v) :
          key ∈ Bindings.names (gathered m parameters roots items vars) :=
        mem_map_of_mem (f := Prod.fst) (mem_gathered.2 gathers)
      refine ⟨_, before, s, fun key v member => ?_, fun key v gathers => ?_,
        fun distinct dotless single key v gathers => ?_, connects, others, grown ▸ logged⟩
      · exact mem_gathered.1 ((Bindings.mem_setAll member).resolve_left not_mem_nil)
      · exact Bindings.mem_names_setAll.2 (.inr (inside gathers))
      · exact Bindings.maps_setAll (inside gathers) fun u member =>
          (mem_gathered.1 member).unique distinct dotless single gathers
    · exact absurd ⟨enough, fun root inside missing => known root inside missing.1 missing.2⟩ lacks

/-- A cursor with a parameter `P` and the names `P`, `R` and `X`, an argument, and a dictionary with
a number, a record and a cell under these names. -/
def shadowMachine : Machine where
  store := ⟨#[.cursor ⟨.text "q", .object 1, .object 2, none, none⟩,
    .list [.text "P", .text "R", .text "X"], .list [.text "P"], .list [.object 6],
    .dict [(.text "P", .int 9), (.text "R", .object 5), (.text "X", .object 6)],
    .record [("F", .object 6)], .cell (.int 3)]⟩
  database := { target := .text "d" }

theorem parameter_shadows_local : ∃ binds before s,
    binds.Maps (quoted "P") (.int 3) ∧ binds.Maps (quoted "R.F") (.int 3) ∧
    ((openWith 0 (.object 3) (.object 4)).after shadowMachine).database.log =
      before ++ [.execute (.take s (.text "q")) (.dict (logged s binds))] := by
  have single (v) (fields) (record : shadowMachine.fields? v = some fields) :
      fields.names.Nodup := by
    unfold Machine.fields? at record
    split at record
    case _ fields' held =>
      cases record
      revert held
      cases shadowMachine.content v with
      | object a => rcases a with _ | _ | _ | _ | _ | _ | _ | a <;> (rintro ⟨⟩; try decide)
      | _ => rintro ⟨⟩
    case _ => cases record
  have held : shadowMachine.store.get? 0 =
    some (.cursor ⟨.text "q", .object 1, .object 2, none, none⟩) := rfl
  have listed : shadowMachine.store.get? 2 = some (.list (["P"].map .text)) := rfl
  have named : shadowMachine.store.get? 1 = some (.list (["P", "R", "X"].map .text)) := rfl
  have given : shadowMachine.store.get? 3 = some (.list [.object 6]) := rfl
  have visible : shadowMachine.store.get? 4 = some (.dict ([("P", .int 9), ("R", .object 5),
      ("X", .object 6)].map fun v : String × Value => (.text v.1, v.2))) := rfl
  obtain ⟨binds, before, s, -, -, maps, -, -, logs⟩ :=
    (opened_with_all_or_nothing held rfl listed rfl named given visible).2 (by decide) (by decide)
      _ _ rfl
  refine ⟨binds, before, s, ?_, ?_, logs⟩
  · exact maps (by decide) (by decide) single _ (shadowMachine.content (.object 6))
      (.argument (i := 0) rfl rfl)
  · exact maps (by decide) (by decide) single (quoted ("R" ++ "." ++ "F"))
      (shadowMachine.content (.object 6))
      (.field (by decide) (by decide) rfl rfl mem_cons_self)

end BlockScript.Query
