import BlockScript.Proofs.Cells

/-!
The values that a query is executed with. They are read from the machine without changing it: one
for each parameter of the cursor, and for each other name one, or one for each field that a record
has at that moment.
-/

namespace BlockScript

def Machine.objectAt? (m : Machine) : Value → Option Object
  | .object a => m.store.get? a
  | _ => none

def Machine.content (m : Machine) (v : Value) : Value :=
  match m.objectAt? v with
  | some (.cell content) => content
  | _ => v

def Machine.fields? (m : Machine) (v : Value) : Option Bindings :=
  match m.objectAt? (m.content v) with
  | some (.record fields) => some fields
  | _ => none

/-- The parts of a variable that a query can be executed with: the fields of a record, else the
variable as a whole. -/
def Machine.partsOf (m : Machine) (v : Value) : List (Option String) :=
  match m.fields? v with
  | some fields => fields.names.map some
  | none => [none]

lemma Machine.objectAt?_push (m : Machine) (o v) : (m.push o).objectAt? v = m.objectAt? v ∨
      m.objectAt? v = none ∧ (m.push o).objectAt? v = some o := by
  cases v with
  | object a =>
    by_cases last : a = m.store.size
    · subst last
      refine .inr ⟨?_, m.get?_push_size o⟩
      exact Array.getElem?_eq_none (Nat.le_refl _)
    · have other : a ≠ m.store.objects.size := last
      simp [objectAt?, push, Store.push, Store.get?, Array.getElem?_push, other]
  | _ => exact .inl rfl

lemma Machine.partsOf_push (m : Machine) (noCell : ∀ content, o ≠ .cell content)
    (noRecord : ∀ fields, o ≠ .record fields) (v) :
    (m.push o).partsOf v = m.partsOf v := by
  have content : (m.push o).content v = m.content v := by
    unfold Machine.content
    rcases m.objectAt?_push o v with same | ⟨absent, new⟩
    · rw [same]
    · grind
  unfold Machine.partsOf Machine.fields?
  rw [content]
  rcases m.objectAt?_push o (m.content v) with same | ⟨absent, new⟩
  · rw [same]
  · grind

lemma Bindings.mem_names_set {b : Bindings} :
    key ∈ (b.set name v).names ↔ key = name ∨ key ∈ b.names := by
  induction b with
  | nil => simp [Bindings.set, Bindings.names]
  | cons entry b ih =>
    unfold Bindings.set
    split
    case isTrue same =>
      subst same
      simp [Bindings.names]
    case isFalse differs =>
      simp only [Bindings.names, map_cons, mem_cons] at ih ⊢
      rw [ih]
      exact or_left_comm

namespace Bindings

variable {b more : Bindings}

lemma mem_set (mem : e ∈ b.set name v) : e ∈ b ∨ e = (name, v) := by
  induction b with
  | nil => exact .inr (mem_singleton.1 mem)
  | cons entry b ih =>
    unfold set at mem
    split at mem
    · exact (mem_cons.1 mem).symm.imp (mem_cons_of_mem _) id
    · grind

lemma mem_setAll (mem : e ∈ b.setAll more) : e ∈ b ∨ e ∈ more := by
  induction more generalizing b with
  | nil => exact .inl mem
  | cons entry more ih =>
    rcases ih mem with set | later
    · exact (mem_set set).imp_right fun same => mem_cons.2 (.inl same)
    · exact .inr (mem_cons_of_mem _ later)

lemma mem_names_setAll : key ∈ (b.setAll more).names ↔ key ∈ b.names ∨ key ∈ more.names := by
  induction more generalizing b with
  | nil => simp [setAll, names]
  | cons entry more ih =>
    change key ∈ ((b.set entry.1 entry.2).setAll more).names ↔ _
    rw [ih, mem_names_set, or_right_comm, or_comm, ← mem_cons]
    rfl

lemma setAll_append (b : Bindings) (first second : List (String × Value)) :
    b.setAll (first ++ second) = (b.setAll first).setAll second := List.foldl_append

def Maps (b : Bindings) (key : String) (v : Value) : Prop := ∀ u, (key, u) ∈ b ↔ u = v

lemma maps_setAll (some : key ∈ more.names)
    (own : ∀ u, (key, u) ∈ more → u = v) : (setAll [] more).Maps key v := by
  have only (u) (mem : (key, u) ∈ setAll [] more) : u = v :=
    own u ((mem_setAll mem).resolve_left not_mem_nil)
  have inside : key ∈ (setAll [] more).names := mem_names_setAll.2 (.inr some)
  obtain ⟨⟨_, w⟩, mem, rfl⟩ := mem_map.1 inside
  refine fun u => ⟨only u, ?_⟩
  rintro rfl
  exact only w mem ▸ mem

end Bindings

namespace Eval

variable {vars : Bindings} (s : String)

/-- A computation leaves the machine as it is, whether it fails or not, and its result is as
required. -/
def Reads (m : Machine) (x : Eval α) (Q : α → Prop) : Prop :=
  match x m with
  | .ok a m' => m' = m ∧ Q a
  | .error _ m' => m' = m

lemma Reads.of_eq (result : x m = .ok r m) (holds : Q r) : Reads m x Q := by
  rw [Reads, result]
  exact ⟨rfl, holds⟩

lemma Reads.imp (reads : Reads m x Q) (imp : ∀ r, Q r → R r) : Reads m x R := by
  unfold Reads at reads ⊢
  split at reads
  case _ r m1 result => exact ⟨reads.1, imp r reads.2⟩
  case _ => exact reads

lemma unwrap_eq (v m) : unwrap v m = .ok (m.content v) m := by
  cases v with
  | object a =>
    rw [unwrap, cell?, Machine.content, Machine.objectAt?, bind_assoc, bind_ok (load?_eq m a)]
    generalize m.store.get? a = held
    rcases held with _ | held
    · rfl
    · cases held <;> rfl
  | _ => rfl

lemma isAbsent_int (here : m.content v = .int n) : isAbsent v m = .ok false m := by
  rw [isAbsent, bind_ok (unwrap_eq v m), here]
  rfl

lemma objectOf?_eq (v m) : objectOf? v m = .ok (m.objectAt? v) m := by
  cases v <;> rfl

lemma objectOf?_object (found : m.store.get? a = some o) :
    objectOf? (.object a) m = .ok (some o) m := by
  rw [objectOf?, load?_eq, found]

lemma equal_texts (s t m) : itemsEqual compare (.text s) (.text t) m = .ok (s == t) m := by
  have compared : compare .eq (.text s) (.text t) m =
      .ok (.bool (Comparison.eq.holds (Ord.compare s t))) m := rfl
  change EStateM.Result.ok (Ord.compare s t == .eq) m = _
  congr 1
  rw [eq_iff_iff, beq_iff_eq, beq_iff_eq]
  exact Std.LawfulEqCmp.compare_eq_iff_eq

lemma anyM_texts (names : List String) (m) :
    (names.map Value.text).anyM (fun v => itemsEqual compare (.text s) v) m =
      .ok (names.contains s) m := by
  induction names with
  | nil => rfl
  | cons name names ih =>
    rw [map_cons, List.anyM, bind_ok (equal_texts s name m), List.contains_cons]
    cases s == name with
    | true => rfl
    | false => exact ih

lemma findM?_texts (vars : Bindings) (m) :
    (vars.map fun b => (Value.text b.1, b.2)).findM? (fun e => itemsEqual compare (.text s) e.1) m =
      .ok ((vars.get? s).map fun v => (.text s, v)) m := by
  induction vars with
  | nil => rfl
  | cons b vars ih =>
    obtain ⟨name, v⟩ := b
    rw [map_cons, List.findM?, bind_ok (equal_texts s name m), Bindings.get?, List.lookup]
    cases same : s == name with
    | true =>
      rw [eq_of_beq same]
      rfl
    | false => exact ih

lemma lookupEntry_texts (vars : Bindings) (m) :
    entry? (vars.map fun b => (Value.text b.1, b.2)) (.text s) m = .ok (vars.get? s) m := by
  have key : isKey (.text s) m = .ok true m := rfl
  unfold entry?
  change lookup? compare _ (.text s) m = _
  rw [lookup?, bind_ok (findM?_texts s vars m)]
  cases vars.get? s <;> rfl

lemma hasItem_list {names : List String} (found : m.store.get? a = some (.list (names.map .text))) :
    hasItem (.object a) (.text s) m = .ok (names.contains s) m := by
  exact (bind_ok (objectOf?_object found)).trans (anyM_texts s names m)

lemma hasItem_dict (found : m.store.get? a = some (.dict (vars.map fun b => (.text b.1, b.2)))) :
    hasItem (.object a) (.text s) m = .ok (vars.get? s).isSome m := by
  exact (bind_ok (objectOf?_object found)).trans (bind_ok (lookupEntry_texts s vars m))

lemma item_dict {s : String}
    (found : m.store.get? a = some (.dict (vars.map fun b => (.text b.1, b.2))))
    (known : vars.get? s = some v) : item (.object a) (.text s) m = .ok v m := by
  refine (bind_ok (objectOf?_object found)).trans ?_
  refine (bind_ok (lookupEntry_texts s vars m)).trans ?_
  rw [known]
  rfl

lemma item_list (i : Nat) (found : m.store.get? a = some (.list items)) :
    item (.object a) (.int i) m =
      if i < items.length then .ok (items.getD i .none) m else .error (.failed .outOfRange) m := by
  have pos : toPosition (.int i) m = .ok (i : Int) m := rfl
  have slot : Slice.slot? items.length i = if i < items.length then some i else none := by
    simp [Slice.slot?, Int.not_lt.2 (Int.natCast_nonneg i)]
  refine (bind_ok (objectOf?_object found)).trans ?_
  change itemOf items (.int i) m = _
  rw [itemOf, bind_ok pos, slot]
  split <;> rfl

lemma toItems_list (found : m.store.get? a = some (.list items)) :
    toItems (.object a) m = .ok items m := by
  exact bind_ok (objectOf?_object found)

end Eval

namespace Query

open Eval

variable {m m' : Machine} {parameters roots : List String} {vars : Bindings}

def partName (root : String) : Option String → String
  | none => root
  | some field => root ++ "." ++ field

/-- The values that a variable gives to a query: one for each field of a record, else its own. -/
def valuesOf (m : Machine) (root : String) (v : Value) : Bindings :=
  match m.fields? v with
  | some fields => fields.map fun field => (quoted (root ++ "." ++ field.1), m.content field.2)
  | none => [(quoted root, m.content v)]

def localValues (m : Machine) (parameters : List String) (vars : Bindings) (root : String) :
    Bindings :=
  if root ∈ parameters then [] else (vars.get? root).elim [] (valuesOf m root)

/-- The values of a query in the order in which they are set. -/
def gathered (m : Machine) (parameters roots : List String) (items : List Value)
    (vars : Bindings) : Bindings :=
  (parameters.zip items).map (fun p => (quoted p.1, m.content p.2)) ++
    roots.flatMap (localValues m parameters vars)

def IsMissing (parameters : List String) (vars : Bindings) (root : String) : Prop :=
  root ∉ parameters ∧ vars.get? root = none

lemma bindParameters_eq (parameters : List String) (given : m.store.get? g = some (.list items)) :
    bindParameters (parameters.map .text) (.object g) m = if parameters.length ≤ items.length then
        .ok (.setAll [] ((parameters.zip items).map fun p => (quoted p.1, m.content p.2))) m
      else .error (.failed .outOfRange) m := by
  -- the places of the parameters that are left, and what is bound before them
  have walk (ps : List String) (k) (binds) :
      (List.zip (List.range' k ps.length) (ps.map Value.text)).foldlM (fun binds entry => (do
        let v ← unwrap (← item (.object g) (.int entry.1))
        return binds.set (quoted (← text entry.2)) v : Eval Bindings)) binds m =
      if ps.length ≤ items.length - k then
        .ok (binds.setAll ((ps.zip (items.drop k)).map fun p => (quoted p.1, m.content p.2))) m
      else .error (.failed .outOfRange) m := by
    induction ps generalizing k binds with
    | nil => simp [Bindings.setAll, pure, EStateM.pure]
    | cons p ps ih =>
      rw [length_cons, List.range'_succ, map_cons, List.zip_cons_cons, foldlM_cons]
      by_cases inside : k < items.length
      · have taken := item_list k given
        rw [if_pos inside] at taken
        rw [bind_assoc, bind_ok taken, bind_assoc, bind_ok (unwrap_eq _ m)]
        refine (ih (k + 1) _).trans ?_
        rw [List.drop_eq_getElem_cons inside, List.getD_eq_getElem?_getD,
          getElem?_eq_getElem inside]
        exact if_congr (by omega) rfl rfl
      · have failed := item_list k given
        rw [if_neg inside] at failed
        rw [if_neg (by omega), bind_assoc, bind_error failed]
  rw [bindParameters, length_map, List.range_eq_range']
  exact walk parameters 0 []

lemma bindFields_eq (name fields) : bindFields binds name fields m =
      .ok (binds.setAll (fields.map fun f => (quoted (name ++ "." ++ f.1), m.content f.2))) m := by
  induction fields generalizing binds with
  | nil => rfl
  | cons field fields ih =>
    rw [bindFields, foldlM_cons, bind_assoc, bind_ok (unwrap_eq field.2 m)]
    exact ih

section

variable (listed : m.store.get? a = some (.list (parameters.map .text)))
  (visible : m.store.get? l = some (.dict (vars.map fun b => (.text b.1, b.2))))
include listed visible

lemma bindName_known (known : ¬ IsMissing parameters vars root) :
    bindName (.object a) (.object l) binds (.text root) m =
      .ok (binds.setAll (localValues m parameters vars root)) m := by
  rw [bindName, bind_ok (hasItem_list root listed), localValues]
  by_cases isParameter : root ∈ parameters
  · rw [if_pos (by simpa using isParameter), if_pos isParameter]
    rfl
  obtain ⟨v, is⟩ := Option.ne_none_iff_exists'.1 fun none => known ⟨isParameter, none⟩
  rw [if_neg (by simpa using isParameter), if_neg isParameter,
    bind_ok (hasItem_dict root visible), is]
  refine (bind_ok (item_dict visible is)).trans ?_
  rw [bind_ok (unwrap_eq v m), bind_ok (objectOf?_eq _ m), Option.elim_some, valuesOf,
    Machine.fields?]
  generalize m.objectAt? (m.content v) = held
  rcases held with _ | held
  · rfl
  · cases held with
    | record fields => exact bindFields_eq root fields
    | _ => rfl

lemma bindName_missing (missing : IsMissing parameters vars root) :
    bindName (.object a) (.object l) binds (.text root) m =
      .error (.failed (.notLocal root)) m := by
  rw [bindName, bind_ok (hasItem_list root listed), if_neg (by simpa using missing.1),
    bind_ok (hasItem_dict root visible), missing.2]
  rfl

lemma bindNames_eq (binds) : (∀ root ∈ roots, ¬ IsMissing parameters vars root) ∧
      (roots.map Value.text).foldlM (bindName (.object a) (.object l)) binds m =
        .ok (binds.setAll (roots.flatMap (localValues m parameters vars))) m ∨
    ∃ root ∈ roots, IsMissing parameters vars root ∧
      (roots.map Value.text).foldlM (bindName (.object a) (.object l)) binds m =
        .error (.failed (.notLocal root)) m := by
  induction roots generalizing binds with
  | nil => exact .inl ⟨nofun, rfl⟩
  | cons root roots ih =>
    rw [map_cons, foldlM_cons]
    by_cases missing : IsMissing parameters vars root
    · exact .inr ⟨root, mem_cons_self, missing,
        bind_error (bindName_missing listed visible missing)⟩
    rw [bind_ok (bindName_known listed visible missing), flatMap_cons, Bindings.setAll_append]
    rcases ih _ with ⟨known, bound⟩ | ⟨other, mem, is, failed⟩
    · exact .inl ⟨forall_mem_cons.2 ⟨missing, known⟩, bound⟩
    · exact .inr ⟨other, mem_cons_of_mem _ mem, is, failed⟩

variable {c : Cursor} (isList : c.parameters = .object a) (isNames : c.binds = .object b)
  (named : m.store.get? b = some (.list (roots.map .text)))
  (given : m.store.get? g = some (.list items))
include isList isNames named given

/-- A query gets a value for each parameter and for its other names, or none at all. The machine is
only read. -/
lemma bind_cases :
    (parameters.length ≤ items.length ∧ (∀ root ∈ roots, ¬ IsMissing parameters vars root)) ∧
      bind c (.object g) (.object l) m =
        .ok (.setAll [] (gathered m parameters roots items vars)) m ∨
    ¬ (parameters.length ≤ items.length ∧ ∀ root ∈ roots, ¬ IsMissing parameters vars root) ∧
      ∃ cause, bind c (.object g) (.object l) m = .error (.failed cause) m := by
  rw [bind, isList, isNames, bind_ok (toItems_list listed), gathered, Bindings.setAll_append]
  have first := bindParameters_eq parameters given
  by_cases enough : parameters.length ≤ items.length
  · rw [if_pos enough] at first
    rw [bind_ok first, bind_ok (toItems_list named)]
    rcases bindNames_eq listed visible _ with ⟨known, bound⟩ | ⟨root, mem, missing, failed⟩
    · exact .inl ⟨⟨enough, known⟩, bound⟩
    · exact .inr ⟨fun known => known.2 root mem missing, _, failed⟩
  · rw [if_neg enough] at first
    exact .inr ⟨fun known => enough known.1, _, bind_error first⟩

lemma reads_bind : Reads m (bind c (.object g) (.object l)) fun out =>
    parameters.length ≤ items.length ∧
      out = .setAll [] (gathered m parameters roots items vars) := by
  rcases bind_cases listed visible isList isNames named given with ⟨known, bound⟩ | ⟨-, _, failed⟩
  · exact .of_eq bound ⟨known.1, rfl⟩
  · rw [Reads, failed]

end

/-- What a name adds to the values of a query: nothing if a parameter has the name, else its
parts. -/
def Adds (m : Machine) (parameters : List String) (vars : Bindings) (root key : String) : Prop :=
  root ∉ parameters ∧ ∃ v, vars.get? root = some v ∧
    ∃ part ∈ m.partsOf v, key = quoted (partName root part)

lemma mem_names_localValues :
    key ∈ (localValues m parameters vars root).names ↔ Adds m parameters vars root key := by
  unfold localValues Adds valuesOf Machine.partsOf Bindings.names
  by_cases isParameter : root ∈ parameters
  · simp [isParameter]
  · cases vars.get? root with
    | none => simp [isParameter]
    | some v =>
      cases held : m.fields? v <;> simp [isParameter, held, partName, eq_comm (a := key)]

lemma mem_names_gathered (enough : parameters.length ≤ items.length) :
    key ∈ (gathered m parameters roots items vars).names ↔
      (∃ p ∈ parameters, key = quoted p) ∨ ∃ root ∈ roots, Adds m parameters vars root key := by
  have first : ((parameters.zip items).map fun p => (quoted p.1, m.content p.2)).map (·.1) =
      parameters.map quoted := by
    have names := congrArg (List.map quoted) (List.map_fst_zip enough)
    rwa [List.map_map] at names ⊢
  rw [Bindings.names, gathered, map_append, mem_append, first, List.map_flatMap, List.mem_flatMap]
  simp [← mem_names_localValues, Bindings.names, eq_comm]

end Query
end BlockScript
