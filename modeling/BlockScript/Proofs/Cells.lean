import BlockScript.Proofs.Settling

/-!
Calculating on cells. Cells of integers calculate and compare as the integers do, and each result
stands in a new cell, so that no cell that was there before is changed.
-/

namespace BlockScript

def Machine.push (m : Machine) (o : Object) : Machine := { m with store := m.store.push o }

def Machine.put (m : Machine) (a : Address) (o : Object) : Machine :=
  { m with store := m.store.set a o }

lemma Store.lt_size_of_get? {s : Store} (found : s.get? a = some o) : a < s.size := by
  rw [Store.get?, Array.getElem?_eq_some_iff] at found
  exact found.1

lemma Machine.get?_push_size (m : Machine) (o) : (m.push o).store.get? m.store.size = some o :=
  m.store.get?_push_size o

structure Machine.Grows (m m' : Machine) : Prop where
  globals : m'.globals = m.globals
  depth : m'.depth = m.depth
  kept : ∀ a o, m.store.get? a = some o → m'.store.get? a = some o

namespace Machine.Grows

lemma refl (m) : Grows m m := ⟨rfl, rfl, fun _ _ found => found⟩

lemma trans (first : Grows m m') (second : Grows m' m'') : Grows m m'' :=
  ⟨second.globals.trans first.globals, second.depth.trans first.depth,
    fun a o found => second.kept a o (first.kept a o found)⟩

lemma push (m o) : Grows m (m.push o) :=
  ⟨rfl, rfl, fun _ _ found => (m.store.get?_push_of_lt o (Store.lt_size_of_get? found)).trans found⟩

end Machine.Grows

namespace Eval

variable {m : Machine} {content : Value}

lemma load?_eq (m a) : load? a m = .ok (m.store.get? a) m := rfl

lemma new_eq (o m) : new o m = .ok (.object m.store.size) (m.push o) := rfl

lemma put_eq (a o m) : put a o m = .ok () (m.put a o) := rfl

section

variable (found : m.store.get? a = some (.cell content))
include found

lemma cell?_cell : cell? (.object a) m = .ok (some (a, content)) m := by
  rw [cell?, bind_ok (load?_eq m a), found]
  rfl

lemma unwrap_cell : unwrap (.object a) m = .ok content m := by
  exact bind_ok (cell?_cell found)

lemma wrap_cell : wrap (.object a) m = .ok (.object a) m := by
  rw [wrap, bind_ok (load?_eq m a), found]
  rfl

end

lemma wrap_int (n : Int) (m) :
    wrap (.int n) m = .ok (.object m.store.size) (m.push (.cell (.int n))) := rfl

lemma wrap_bool (b : Bool) (m) :
    wrap (.bool b) m = .ok (.object m.store.size) (m.push (.cell (.bool b))) := rfl

lemma wrap_null (m) : wrap .null m = .ok (.object m.store.size) (m.push (.cell .null)) := rfl

lemma onCells_contents (left : m.store.get? a = some (.cell v))
    (right : m.store.get? b = some (.cell w)) :
    onCells bare (.object a) (.object b) m = (bare v w >>= wrap) m := by
  rw [onCells, bind_ok (cell?_cell left)]
  dsimp only
  rw [bind_ok (wrap_cell right), bind_ok (cell?_cell right)]

lemma onCells_ints (left : m.store.get? a = some (.cell (.int x)))
    (right : m.store.get? b = some (.cell (.int y)))
    (result : bare (.int x) (.int y) m = .ok (.int z) m) :
    onCells bare (.object a) (.object b) m =
      .ok (.object m.store.size) (m.push (.cell (.int z))) := by
  rw [onCells_contents left right, bind_ok result, wrap_int]

lemma neg_cell (found : m.store.get? a = some (.cell (.int x))) :
    neg (.object a) m = .ok (.object m.store.size) (m.push (.cell (.int (-x)))) := by
  exact bind_ok (cell?_cell found)

lemma truth_content (found : m.store.get? a = some (.cell content))
    (known : contentTruth content m = .ok b m) : truth (.object a) m = .ok b m := by
  rw [truth, bind_ok (cell?_cell found)]
  exact known

lemma truth_cell (found : m.store.get? a = some (.cell (.bool b))) :
    truth (.object a) m = .ok b m :=
  truth_content found rfl

lemma negate_cell (found : m.store.get? a = some (.cell (.bool b))) :
    Query.negate (.object a) m = .ok (.object m.store.size) (m.push (.cell (.bool !b))) := by
  exact bind_ok (unwrap_cell found)

lemma compareWithin_ints (steps op) : compareWithin (steps + 1) op (.int x) (.int y) m =
      .ok (.bool (op.holds (Ord.compare x y))) m := rfl

lemma compareWithin_cell (steps op v) (found : m.store.get? a = some (.cell content)) :
    compareWithin (steps + 1) op (.object a) v m =
      compareCell (compareWithin steps) op content v m := by
  exact bind_ok (cell?_cell found)

lemma compare_contents (op) (left : m.store.get? a = some (.cell v))
    (right : m.store.get? b = some (.cell w)) :
    compare op (.object a) (.object b) m =
      if op = .eq then (likened v w >>= fun u => compareWithin 999 .eq v u >>= wrap) m
      else (compareWithin 999 op v w >>= wrap) m := by
  rw [compare, depthLimit, compareWithin_cell 999 op _ left, compareCell]
  by_cases equality : op = .eq
  · rw [if_pos (beq_iff_eq.2 equality), if_pos equality, bind_ok (unwrap_cell right)]
  · rw [if_neg (mt beq_iff_eq.1 equality), if_neg equality, bind_ok (wrap_cell right),
      bind_ok (cell?_cell right)]

lemma compare_cells (op) (left : m.store.get? a = some (.cell (.int x)))
    (right : m.store.get? b = some (.cell (.int y))) :
    compare op (.object a) (.object b) m =
      .ok (.object m.store.size) (m.push (.cell (.bool (op.holds (Ord.compare x y))))) := by
  rw [compare_contents op left right]
  split
  · rename_i equality
    have same : likened (.int x) (.int y) m = .ok (.int y) m := rfl
    rw [equality, bind_ok same, bind_ok (compareWithin_ints 998 .eq), wrap_bool]
  · rw [bind_ok (compareWithin_ints 998 op), wrap_bool]

lemma rangeBounds_cells (left : m.store.get? a = some (.cell (.int x)))
    (right : m.store.get? b = some (.cell (.int y))) :
    Library.rangeBounds (.object a) (.object b) m = .ok (x, y + 1) m := by
  exact (bind_ok (unwrap_cell left)).trans (bind_ok (unwrap_cell right))

lemma assign_cell {new : Value} (target : m.store.get? a = some (.cell content))
    (src : m.store.get? b = some (.cell new)) :
    assign (.object a) (.object b) m = .ok (.object a) (m.put a (.cell new)) := by
  rw [assign, bind_ok (load?_eq m a), target]
  dsimp only
  rw [bind_ok (wrap_cell src), bind_ok (cell?_cell src)]
  rfl

end Eval

lemma Query.cursorAt_eq (held : m.store.get? a = some (.cursor c)) : cursorAt a m = .ok c m := by
  rw [cursorAt, Eval.bind_ok (Eval.load?_eq m a), held]
  rfl

end BlockScript
