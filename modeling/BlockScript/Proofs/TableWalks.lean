import BlockScript.Proofs.Binding
import BlockScript.Proofs.Core.Evaluation

/-!
Walks over the indices of a table, up from the first and down from the last. They visit the indices
of the elements exactly if there are any.
-/

namespace BlockScript.Table

open Eval Machine

variable {a : Address} {element : Value}

/-- A walk from one index to the next until there is none. -/
inductive Walks (step : Value → Eval Value) (body : Value → Eval Unit) :
    Value → Machine → List Int → Machine → Prop where
  | stop (absent : isAbsent v m = .ok true m) : Walks step body v m [] m
  | visit (present : isAbsent v m = .ok false m) (here : m.content v = .int n)
      (ran : body v m = .ok () m1) (stepped : step v m1 = .ok w m2)
      (later : Walks step body w m2 ns m') : Walks step body v m (n :: ns) m'

/-- What is done at each index leaves the table and the index as they are. -/
def Idle (body : Value → Eval Unit) (a : Address) : Prop :=
  ∀ v m o, m.store.get? a = some o → ∃ m', body v m = .ok () m' ∧ m'.store.get? a = some o ∧
    ∀ n, m.content v = .int n → m'.content v = .int n

/-- The walk that begins with one method and goes on with another. -/
def Goes (a : Address) (begins steps : Method) (body : Value → Eval Unit) (m : Machine)
    (ns : List Int) : Prop :=
  ∃ v m1 m', Library.applyMethod a begins [] m = .ok v m1 ∧
    Walks (fun v => Library.applyMethod a steps [v]) body v m1 ns m'

section

variable {body : Value → Eval Unit} {m : Machine} {v : Value} {items : List Value}

lemma content_pushed (m : Machine) (n : Int) :
    (m.push (.cell (.int n))).content (.object m.store.size) = .int n := by
  rw [Machine.content, Machine.objectAt?, Machine.get?_push_size]

variable (held : m.store.get? a = some (.table items element))
include held

lemma contents_eq : contents a m = .ok (items, element) m := by
  rw [contents, bind_ok (load?_eq m a), held]
  rfl

lemma count_eq : Table.count a m = .ok (.int items.length) m := by
  exact bind_ok (contents_eq held)

lemma next_eq {k : Int} (here : m.content v = .int k) : Table.next a v m =
    if items.length ≤ k then .ok .null m
    else .ok (.object m.store.size) (m.push (.cell (.int (k + 1)))) := by
  rw [Table.next, bind_ok (unwrap_eq v m), here, bind_ok (contents_eq held),
    bind_ok (Core.holds_ints ..), Core.relates]
  by_cases last : items.length ≤ k
  · rw [if_pos last, if_pos (decide_eq_true last)]
    rfl
  · rw [if_neg last, if_neg (by simpa using last)]
    rfl

omit held in
lemma prior_eq {k : Int} (here : m.content v = .int k) : Table.prior v m = if k = 1 then .ok .null m
    else .ok (.object m.store.size) (m.push (.cell (.int (k - 1)))) := by
  rw [Table.prior, bind_ok (unwrap_eq v m), here, bind_ok (Core.holds_ints ..), Core.relates]
  by_cases first : k = 1
  · rw [if_pos first, if_pos (decide_eq_true first)]
    rfl
  · rw [if_neg first, if_neg (by simpa using first)]
    rfl

variable (idle : Idle body a)
include idle

lemma walks_up {n k : Nat} (here : m.content v = .int k) (rest : k + n = items.length) :
    ∃ m', Walks (Table.next a) body v m ((List.range' k (n + 1)).map (↑)) m' := by
  induction n generalizing k v m with
  | zero =>
    obtain ⟨m1, ran, held1, same⟩ := idle v m _ held
    have stepped := next_eq held1 (same _ here)
    rw [if_pos (by omega)] at stepped
    exact ⟨m1, .visit (isAbsent_int here) here ran stepped (.stop rfl)⟩
  | succ n ih =>
    obtain ⟨m1, ran, held1, same⟩ := idle v m _ held
    have stepped := next_eq held1 (same _ here)
    rw [if_neg (by omega)] at stepped
    obtain ⟨m', later⟩ := ih (k := k + 1) (get?_pushed held1) (content_pushed m1 _) (by omega)
    exact ⟨m', .visit (isAbsent_int here) here ran stepped later⟩

lemma walks_down {k : Nat} (here : m.content v = .int (k + 1 : Nat)) :
    ∃ m', Walks Table.prior body v m (((List.range' 1 (k + 1)).map (↑)).reverse) m' := by
  induction k generalizing v m with
  | zero =>
    obtain ⟨m1, ran, _, same⟩ := idle v m _ held
    exact ⟨m1, .visit (isAbsent_int here) here ran (prior_eq (same _ here)) (.stop rfl)⟩
  | succ k ih =>
    obtain ⟨m1, ran, held1, same⟩ := idle v m _ held
    have stepped := prior_eq (same _ here)
    rw [if_neg (by omega), (by omega : ((k + 1 + 1 : Nat) : Int) - 1 = (k + 1 : Nat))] at stepped
    obtain ⟨m', later⟩ := ih (get?_pushed held1) (content_pushed m1 _)
    refine ⟨m', ?_⟩
    rw [List.range'_1_concat, List.map_append, List.reverse_append, Nat.add_comm 1]
    exact .visit (isAbsent_int here) here ran stepped later

/-- Below one there is no end. -/
lemma not_walks_down (walks : Walks Table.prior body v m ns m') {k : Int}
    (here : m.content v = .int k) (low : k ≤ 0) : False := by
  induction walks generalizing k with
  | stop absent => cases absent.symm.trans (isAbsent_int here)
  | visit _ _ ran stepped _ ih =>
    obtain ⟨m1, ran', held1, same⟩ := idle _ _ _ held
    cases ran'.symm.trans ran
    rw [prior_eq (same _ here), if_neg (by omega)] at stepped
    cases stepped
    exact ih (get?_pushed held1) (content_pushed _ _) (by omega)

/-- The walks up and down visit the indices of the elements if there are any. In an empty table the
walk up visits an index that is not there, and the walk down does not end. -/
theorem walks_over_indices_iff :
    (Goes a .tableFirst .tableNext body m ((List.range' 1 items.length).map (↑)) ↔ items ≠ []) ∧
    (Goes a .tableLast .tablePrior body m ((List.range' 1 items.length).map (↑)).reverse ↔
      items ≠ []) ∧
    (items = [] → ∀ ns, ¬ Goes a .tableLast .tablePrior body m ns) := by
  have endless (empty : items = []) (ns) : ¬ Goes a .tableLast .tablePrior body m ns := by
    rintro ⟨v, m1, m', asked, walks⟩
    cases (count_eq held).symm.trans asked
    exact not_walks_down held idle walks (k := items.length) rfl (by simp [empty])
  refine ⟨⟨?_, fun some => ?_⟩, ⟨fun down empty => endless empty _ down, fun some => ?_⟩, endless⟩
  · rintro ⟨v, m1, m', asked, walks⟩ rfl
    cases asked
    cases walks with
    | stop absent => cases absent.symm.trans (isAbsent_int (content_pushed m 1))
  · have length := List.length_pos_iff.2 some
    obtain ⟨m', up⟩ := walks_up (n := items.length - 1) (k := 1)
      (get?_pushed held) idle (content_pushed m 1) (by omega)
    rw [Nat.sub_add_cancel length] at up
    exact ⟨_, _, m', rfl, up⟩
  · have length := List.length_pos_iff.2 some
    obtain ⟨m', down⟩ := walks_down (k := items.length - 1) (v := .int items.length) held idle
      (by rw [Nat.sub_add_cancel length]; rfl)
    rw [Nat.sub_add_cancel length] at down
    exact ⟨_, _, m', count_eq held, down⟩

end

/-- A table with one cell. -/
def single : Machine := { store := ⟨#[.table [.object 1] (.routine .wrap), .cell (.int 5)]⟩ }

theorem single_walked :
    Goes 0 .tableFirst .tableNext (fun _ => pure ()) single [1] ∧
      Goes 0 .tableLast .tablePrior (fun _ => pure ()) single [1] := by
  have idle : Idle (fun _ => pure ()) 0 := fun v m o held => ⟨m, rfl, held, fun _ here => here⟩
  have walked := walks_over_indices_iff
    (rfl : single.store.get? 0 = some (.table [.object 1] (.routine .wrap))) idle
  exact ⟨walked.1.2 (by simp), walked.2.1.2 (by simp)⟩

/-- In an empty table the walk up visits one index. -/
theorem empty_table_walked :
    let m : Machine := { store := ⟨#[.table [] (.routine .wrap)]⟩ }
    Library.applyMethod 0 .tableCount [] m = .ok (.int 0) m ∧
      Goes 0 .tableFirst .tableNext (fun _ => pure ()) m [1] := by
  exact ⟨rfl, _, _, _, rfl, .visit rfl rfl rfl rfl (.stop rfl)⟩

end BlockScript.Table
