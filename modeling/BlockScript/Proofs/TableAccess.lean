import BlockScript.Proofs.SharedCells
import BlockScript.Proofs.TableWalks

/-!
Elements of a table that do not exist. A table grows to an index beyond its end, and an index below
one counts from its end, so that it may stand for an element that does exist.
-/

namespace BlockScript.Table

open Eval Machine Run

variable {call : Value → List Value → Eval Value} {a : Address} {element : Value}

/-- The constructor of a table's elements returns an object that was not there before, and leaves
what was there as it is. -/
def Makes (call : Value → List Value → Eval Value) (element : Value) : Prop :=
  ∀ m, ∃ (b : Nat) (m' : Machine), call element [] m = .ok (.object b) m' ∧ m.store.size ≤ b ∧
    m.store.size ≤ m'.store.size ∧
    ∀ (c : Nat) o, m.store.get? c = some o → m'.store.get? c = some o

/-- A table has grown by new elements, and nothing else that was there has changed. -/
structure Grown (a : Address) (element : Value) (items vs : List Value) (m m' : Machine) :
    Prop where
  held : m'.store.get? a = some (.table (items ++ vs) element)
  fresh : ∀ v ∈ vs, ∃ b : Nat, v = .object b ∧ m.store.size ≤ b
  others : ChangesOnly a m m'

section

variable {m : Machine} {items : List Value} {i : Int}

lemma slot_eq (held : m.store.get? a = some (.table items element)) (i : Int) :
    slot a (.int i) m = (Slice.slot? items.length i).elim (.error (.failed .outOfRange) m)
      (.ok · m) := by
  have position : toPosition (.int i) m = .ok i m := rfl
  rw [slot, bind_ok (contents_eq held)]
  dsimp only
  rw [bind_ok position]
  cases Slice.slot? items.length i <;> rfl

variable (held : m.store.get? a = some (.table items element))
include held

lemma Grown.refl : Grown a element items [] m m :=
  ⟨by simpa using held, by simp, fun _ _ _ found => found⟩

lemma extend_eq (makes : Makes call element) (n : Nat) :
    ∃ vs m', extend (call · []) a n m = .ok () m' ∧ vs.length = n ∧
      Grown a element items vs m m' := by
  induction n generalizing m items with
  | zero => exact ⟨[], m, rfl, rfl, .refl held⟩
  | succ n ih =>
    obtain ⟨b, m1, made, new, larger, kept⟩ := makes m
    have held1 := kept a _ held
    obtain ⟨vs, m', ran, length, grown⟩ :=
      ih (get?_put_self (get?_lt held1) (.table (items ++ [.object b]) element))
    refine ⟨.object b :: vs, m', ?_, by simp [length], by simpa using grown.held,
      forall_mem_cons.2 ⟨⟨b, rfl, new⟩, fun v mem => ?_⟩, fun c o other found => ?_⟩
    · rw [extend, bind_ok (contents_eq held)]
      dsimp only
      rw [bind_ok made, bind_ok (contents_eq held1)]
      exact (bind_ok (put_eq a _ m1)).trans ran
    · obtain ⟨c, is, later⟩ := grown.fresh v mem
      rw [size_put] at later
      exact ⟨c, is, by omega⟩
    · exact grown.others c o other ((get?_put_of_ne other _ _).trans (kept c o found))

variable {index : Value} (resolved : m.content index = .int i)
include resolved

lemma reach_eq (makes : Makes call element) :
    ∃ vs m', reach (call · []) a index m = .ok (.int (i - 1)) m' ∧
      vs.length = (i - items.length).toNat ∧ Grown a element items vs m m' := by
  have offset : sub (.int i) (.int 1) m = .ok (.int (i - 1)) m := rfl
  have wanted : add (.int (i - 1)) (.int 1) m = .ok (.int (i - 1 + 1)) m := rfl
  rw [reach, bind_ok (unwrap_eq index m), resolved, bind_ok offset, bind_ok (contents_eq held)]
  dsimp only
  rw [bind_ok wanted, Int.sub_add_cancel, bind_ok (Core.holds_ints ..)]
  by_cases inside : i ≤ items.length
  · rw [Core.relates, if_pos (decide_eq_true inside)]
    exact ⟨[], m, rfl, by simp; omega, .refl held⟩
  · have missing : sub (.int i) (.int items.length) m = .ok (.int (i - items.length)) m := rfl
    rw [Core.relates, if_neg (by simpa using inside), bind_ok missing]
    obtain ⟨vs, m', ran, length, grown⟩ := extend_eq held makes (rounds (.int (i - items.length)))
    exact ⟨vs, m', bind_ok ran, length, grown⟩

/-- Reading and writing both go on from the place of the index in the table that has grown. -/
lemma access_eq (makes : Makes call element) :
    ∃ vs m', vs.length = (i - items.length).toNat ∧ Grown a element items vs m m' ∧
      Library.getItem call (.object a) index m =
        (Slice.slot? (items ++ vs).length (i - 1)).elim (.error (.failed .outOfRange) m')
          (fun k => .ok ((items ++ vs).getD k .none) m') ∧
      ∀ v, Library.setItem call (.object a) index v m =
        (Slice.slot? (items ++ vs).length (i - 1)).elim (.error (.failed .outOfRange) m')
          (fun k => .ok () (m'.put a (.table ((items ++ vs).set k v) element))) := by
  obtain ⟨vs, m', ran, length, grown⟩ := reach_eq held resolved makes
  have goes {α : Type} (next : Nat → Eval α) :
      (do next (← slot a (← reach (call · []) a index))) m =
        (Slice.slot? (items ++ vs).length (i - 1)).elim (.error (.failed .outOfRange) m')
          (next · m') := by
    have found := slot_eq grown.held (i - 1)
    rw [bind_ok ran]
    cases place : Slice.slot? (items ++ vs).length (i - 1) <;> rw [place] at found
    · exact bind_error found
    · exact bind_ok found
  refine ⟨vs, m', length, grown, ?_, fun v => ?_⟩
  all_goals
    first | rw [Library.getItem] | rw [Library.setItem]
    rw [bind_ok (load?_eq m a), held]
    refine (goes _).trans ?_
    congr 1
    funext k
    rw [bind_ok (contents_eq grown.held)]
    rfl

lemma callValue_eq :
    Library.callValue call (.object a) [index] m = Library.getItem call (.object a) index m := by
  rw [Library.callValue, Library.getItem, bind_ok (load?_eq m a), bind_ok (load?_eq m a), held]
  cases index with
  | none => cases resolved
  | _ => rfl

/-- An element exists only between one and the length of the table. -/
lemma missing_of_exists?
    (missing : Library.applyMethod a .tableExists [index] m = .ok (.bool false) m) :
    i < 1 ∨ items.length < i := by
  have compared (op) (x y : Int) :
      Eval.compare op (.int x) (.int y) m = .ok (.bool (Core.relates op x y)) m := by
    rw [← Core.holds_compare]
    rfl
  have offset : sub (.int i) (.int 1) m = .ok (.int (i - 1)) m := rfl
  by_contra inside
  have nonnegative : Core.relates .ge (i - 1) 0 = true := decide_eq_true (by omega)
  change Table.exists? a index m = _ at missing
  rw [Table.exists?, bind_ok (unwrap_eq index m), resolved, bind_ok offset,
    bind_ok (compared .ge _ _), nonnegative] at missing
  change (contents a >>= _) m = _ at missing
  rw [bind_ok (contents_eq held), compared] at missing
  injection missing with answer
  injection answer with answer
  have : ¬ i - 1 < items.length := of_decide_eq_false answer
  omega

end

/-- What `t(i) := v` does: the element is fetched, assigned to and put back. -/
def update (call : Value → List Value → Eval Value) (a : Address) (index v : Value) :
    Eval Unit := do
  let old ← Library.getItem call (.object a) index
  Library.setItem call (.object a) index (← assign old v)

/-- The elements of a table are in their places, and all else that was there is as it was. -/
structure Intact (a : Address) (element : Value) (items : List Value) (m m' : Machine) : Prop where
  held : ∃ later, m'.store.get? a = some (.table (items ++ later) element)
  others : ChangesOnly a m m'

section

variable {m m0 m' : Machine} {items vs : List Value} {i : Int} {index : Value}

lemma Grown.intact (grown : Grown a element items vs m m') : Intact a element items m m' :=
  ⟨⟨vs, grown.held⟩, grown.others⟩

lemma slot?_window (low : 1 - (n : Nat) ≤ i) (high : i ≤ 0) :
    ∃ k < n, Slice.slot? n (i - 1) = some k := by
  refine ⟨(i - 1 + n).toNat, by omega, ?_⟩
  simp only [Slice.slot?, if_pos (by omega : i - 1 < 0)]
  exact if_pos (by simp; omega)

lemma slot?_outside {short long : Nat} (outside : ¬ (1 - long ≤ i ∧ i ≤ short))
    (shorter : short ≤ long) (place : Slice.slot? n (i - 1) = some k)
    (grows : n = long + (i - long).toNat) : short ≤ k ∧ k < n ∧ short < i := by
  simp only [Slice.slot?] at place
  grind

variable (makes : Makes call element) (resolved : m.content index = .int i)
include makes resolved

/-- A table that has grown keeps the elements it had when another one is written. -/
lemma intact_setItem (intact : Intact a element items m0 m)
    (held : m.store.get? a = some (.table (items ++ vs) element))
    (outside : ¬ (1 - (items ++ vs).length ≤ i ∧ i ≤ items.length)) (v) :
    Ends (fun _ => Intact a element items m0) (Library.setItem call (.object a) index v) m
      fun _ _ => True := by
  obtain ⟨ws, m', length, grown, -, stored⟩ := access_eq held resolved makes
  have stored := stored v
  have now := grown.held
  rw [append_assoc] at now
  have intact' : Intact a element items m0 m' := ⟨⟨_, now⟩, intact.others.trans grown.others⟩
  cases place : Slice.slot? (items ++ vs ++ ws).length (i - 1) <;> rw [place] at stored
  case none => exact .of_error stored intact'
  case some k =>
    obtain ⟨beyond, -⟩ := slot?_outside outside (by simp) place (by rw [length_append, length])
    refine .of_ok stored ⟨⟨(vs ++ ws).set (k - items.length) v, ?_⟩, fun b o other found => ?_⟩
      trivial
    · rw [← List.set_append_right k v beyond, ← append_assoc]
      exact get?_put_self (get?_lt now) _
    · exact (get?_put_of_ne other _ _).trans (intact'.others b o other found)

variable (held : m.store.get? a = some (.table items element))
  (outside : ¬ (1 - items.length ≤ i ∧ i ≤ items.length))
include held outside

lemma ends_getItem_outside : Ends (fun _ => Intact a element items m)
    (Library.getItem call (.object a) index) m fun v m1 => ∃ vs, ∃ b : Nat,
      Grown a element items vs m m1 ∧ v = .object b ∧ m.store.size ≤ b ∧ items.length < i := by
  obtain ⟨vs, m1, length, grown, got, -⟩ := access_eq held resolved makes
  cases place : Slice.slot? (items ++ vs).length (i - 1) <;> rw [place] at got
  case none => exact .of_error got grown.intact
  case some k =>
    obtain ⟨beyond, inside, high⟩ :=
      slot?_outside outside (Nat.le_refl _) place (by rw [length_append, length])
    rw [Option.elim, List.getD_eq_getElem _ _ inside, List.getElem_append_right beyond] at got
    obtain ⟨b, is, least⟩ := grown.fresh _ (List.getElem_mem _)
    exact .of_ok got grown.intact ⟨vs, b, grown, is, least, high⟩

lemma intact_update (v) :
    Ends (fun _ => Intact a element items m) (update call a index v) m fun _ _ => True := by
  refine .bind_from (ends_getItem_outside makes resolved held outside) ?_
  rintro _ m1 - ⟨vs, b, grown, rfl, least, high⟩
  have small := get?_lt held
  -- The new element and the table are different objects, and the index is neither of them.
  have kept {m2} (only : ChangesOnly b m1 m2) (c : Nat) (o) (other : a ≠ c)
      (found : m.store.get? c = some o) : m2.store.get? c = some o := by
    have := get?_lt found
    exact only c o (by omega) (grown.others c o other found)
  have assigned : Ends (fun _ => Intact a element items m) (assign (.object b) v) m1 fun _ m2 =>
      m2.content index = .int i ∧ m2.store.get? a = some (.table (items ++ vs) element) := by
    refine (ends_assign_only b v m1).imp
      (fun m2 only => ⟨⟨vs, only a _ (by omega) grown.held⟩, kept only⟩)
      fun _ m2 only _ => ⟨?_, only a _ (by omega) grown.held⟩
    cases index with
    | object c =>
      unfold Machine.content Machine.objectAt? at resolved ⊢
      grind
    | _ => exact resolved
  exact .bind_from assigned fun w m2 intact there =>
    intact_setItem makes there.1 intact there.2 (by omega) w

end

/-- An element that does not exist is apart from those that do, in reading, writing and assigning,
unless its index counts from the end to one of them. -/
theorem missing_element_apart_iff {m : Machine} {items : List Value} {index : Value} {i : Int}
    (makes : Makes call element) (held : m.store.get? a = some (.table items element))
    (older : ∀ b : Nat, .object b ∈ items → b < m.store.size)
    (resolved : m.content index = .int i)
    (missing : Library.applyMethod a .tableExists [index] m = .ok (.bool false) m) :
    ((∀ v m', Library.callValue call (.object a) [index] m = .ok v m' → v ∉ items) ∧
      ∀ v, Intact a element items m ((Library.setItem call (.object a) index v).after m) ∧
        Intact a element items m ((update call a index v).after m)) ↔
      ¬ (1 - items.length ≤ i ∧ i ≤ 0) := by
  have absent := missing_of_exists? held resolved missing
  rw [callValue_eq held resolved]
  refine ⟨fun apart window => ?_, fun outside => ⟨fun v m' ran mem => ?_, fun v => ⟨?_, ?_⟩⟩⟩
  · obtain ⟨vs, m', length, grown, got, -⟩ := access_eq held resolved makes
    obtain rfl : vs = [] := List.eq_nil_of_length_eq_zero (by omega)
    obtain ⟨k, inside, place⟩ := slot?_window window.1 window.2
    rw [append_nil, place, Option.elim, List.getD_eq_getElem _ _ inside] at got
    exact apart.1 _ m' got (List.getElem_mem inside)
  · obtain ⟨-, vs, b, -, rfl, least, -⟩ :=
      (ends_getItem_outside makes resolved held (by omega)).ok ran
    have := older b mem
    omega
  · have start := (Grown.refl held).intact
    rw [← append_nil items] at held
    exact (intact_setItem makes resolved start held (by rw [append_nil]; omega) v).after
  · exact (intact_update makes resolved held (by omega) v).after

lemma makes_cell (call) : Makes (Library.callValue call) (.routine .wrap) := fun m =>
  ⟨m.store.size, m.push (.cell .null), rfl, Nat.le_refl _, by rw [size_push]; omega,
    fun _ _ => get?_pushed⟩

theorem second_of_one_apart :
    let call := Library.callValue fun _ _ => fail .unsuited
    Library.applyMethod 0 .tableExists [.int 2] single = .ok (.bool false) single ∧
      ∀ v, Intact 0 (.routine .wrap) [.object 1] single
          ((Library.setItem call (.object 0) (.int 2) v).after single) ∧
        Intact 0 (.routine .wrap) [.object 1] single
          ((update call 0 (.int 2) v).after single) := by
  have held : single.store.get? 0 = some (.table [.object 1] (.routine .wrap)) := rfl
  have apart := missing_element_apart_iff (makes_cell fun _ _ => fail .unsuited) held
    (by simp [single, Store.size]) (rfl : single.content (.int 2) = .int 2) rfl
  exact ⟨rfl, (apart.2 (by decide)).2⟩

/-- The element at zero is not there, and it is read and assigned to as the last one. -/
theorem zeroth_is_last :
    let call := Library.callValue fun _ _ => fail .unsuited
    Library.applyMethod 0 .tableExists [.int 0] single = .ok (.bool false) single ∧
      Library.callValue call (.object 0) [.int 0] single = .ok (.object 1) single ∧
      ((update call 0 (.int 0) (.int 5)).after single).store.get? 1 = some (.cell (.int 5)) := by
  exact ⟨rfl, rfl, rfl⟩

end BlockScript.Table
