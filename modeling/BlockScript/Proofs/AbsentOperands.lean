import BlockScript.Proofs.Cells

/-!
Operators with the absent value on one side. On the left side it is the result, whatever operator
and right side it meets.
-/

namespace BlockScript

def Value.isScalar : Value → Bool
  | .bool _ | .int _ | .float _ | .text _ => true
  | _ => false

namespace Eval

def operate : Operator → Value → Value → Eval Value
  | .comparison op => compare op
  | .arithmetic op => calculate op

def GivesCell (content : Value) (x : Eval Value) (m : Machine) : Prop :=
  x m = .ok (.object m.store.size) (m.push (.cell content))

def IsUnsuited (x : Eval Value) (m : Machine) : Prop := x m = .error (.failed .unsuited) m

def plainComparisons : List Comparison := [.ne, .gt, .ge, .lt, .le]

section

variable {m : Machine} {a b : Address}

lemma GivesCell.content_eq (first : GivesCell c x m) (second : GivesCell d x m) : c = d := by
  have same := first.symm.trans second
  injection same with _ machines
  have objects := congrArg (fun m' : Machine => m'.store.get? m.store.size) machines
  simp only [Machine.get?_push_size, Option.some.injEq, Object.cell.injEq] at objects
  exact objects

lemma not_givesCell_of_isUnsuited (unsuited : IsUnsuited x m) : ¬ GivesCell c x m := by
  intro gives
  have same := unsuited.symm.trans gives
  cases same

lemma compare_absent_left (op) (left : m.store.get? a = some (.cell .null))
    (right : m.store.get? b = some (.cell w)) :
    GivesCell .null (compare op (.object a) (.object b)) m := by
  have absent (op) : compareWithin 999 op .null w m = .ok .null m := rfl
  unfold GivesCell
  rw [compare_contents op left right]
  split
  · have kept : likened .null w m = .ok w m := by
      cases w <;> rfl
    rw [bind_ok kept, bind_ok (absent .eq), wrap_null]
  · rw [bind_ok (absent op), wrap_null]

lemma calculate_absent_left (op : Arithmetic) (left : m.store.get? a = some (.cell .null))
    (right : m.store.get? b = some (.cell w)) :
    GivesCell .null (calculate op (.object a) (.object b)) m := by
  cases op
  all_goals
    refine (onCells_contents left right).trans ?_
    rfl

section

variable (scalar : v.isScalar = true) (left : m.store.get? a = some (.cell v))
  (right : m.store.get? b = some (.cell .null))
include scalar

/-- A scalar does not know how to compare with the absent value, so that is asked in its place. -/
lemma compareWithin_absent (steps op) : compareWithin (steps + 1) op v .null m = .ok .null m := by
  cases op <;> cases v <;> first | rfl | cases scalar

include left right

lemma compare_absent_right (plain : op ∈ plainComparisons) :
    GivesCell .null (compare op (.object a) (.object b)) m := by
  have other : op ≠ .eq := by
    rintro rfl
    exact absurd plain (by decide)
  unfold GivesCell
  rw [compare_contents op left right, if_neg other,
    bind_ok (compareWithin_absent scalar 998 op), wrap_null]

lemma calculate_absent_right (op : Arithmetic) :
    IsUnsuited (calculate op (.object a) (.object b)) m := by
  cases op
  all_goals
    refine (onCells_contents left right).trans ?_
    cases v <;> first | rfl | cases scalar

end

/-! An equality turns the absent value into the type of the left side: into the empty text, into
false, or not at all. -/

section

variable (right : m.store.get? b = some (.cell .null))
include right

lemma equal_absent_text (left : m.store.get? a = some (.cell (.text s))) :
    GivesCell (.bool (s == "")) (compare .eq (.object a) (.object b)) m := by
  have turned : likened (.text s) .null m = .ok (.text "") m := rfl
  have compared : compareWithin 999 .eq (.text s) (.text "") m = .ok (.bool (s == "")) m := by
    have same : Comparison.eq.holds (Ord.compare s "") = (s == "") := by
      rw [eq_iff_iff, Comparison.holds, beq_iff_eq, beq_iff_eq]
      exact Std.compare_eq_iff_eq
    rw [← same]
    rfl
  unfold GivesCell
  rw [compare_contents .eq left right, if_pos rfl, bind_ok turned, bind_ok compared, wrap_bool]

lemma equal_absent_bool (left : m.store.get? a = some (.cell (.bool c))) :
    GivesCell (.bool !c) (compare .eq (.object a) (.object b)) m := by
  have turned : likened (.bool c) .null m = .ok (.bool false) m := rfl
  have compared : compareWithin 999 .eq (.bool c) (.bool false) m = .ok (.bool !c) m := by
    cases c <;> rfl
  unfold GivesCell
  rw [compare_contents .eq left right, if_pos rfl, bind_ok turned, bind_ok compared, wrap_bool]

lemma equal_absent_number (left : m.store.get? a = some (.cell v))
    (number : (∃ n, v = .int n) ∨ ∃ x, v = .float x) :
    IsUnsuited (compare .eq (.object a) (.object b)) m := by
  have stuck : likened v .null m = .error (.failed .unsuited) m := by
    rcases number with ⟨n, rfl⟩ | ⟨x, rfl⟩
    · rfl
    · rfl
  unfold IsUnsuited
  rw [compare_contents .eq left right, if_pos rfl, bind_error stuck]

end

lemma equal_absent_right (scalar : v.isScalar = true) (left : m.store.get? a = some (.cell v))
    (right : m.store.get? b = some (.cell .null)) :
    ¬ GivesCell .null (compare .eq (.object a) (.object b)) m := by
  intro absent
  cases v with
  | text s =>
    have truth := equal_absent_text right left
    cases truth.content_eq absent
  | bool c =>
    have truth := equal_absent_bool right left
    cases truth.content_eq absent
  | int n =>
    have fails := equal_absent_number right left (.inl ⟨n, rfl⟩)
    exact not_givesCell_of_isUnsuited fails absent
  | float x =>
    have fails := equal_absent_number right left (.inr ⟨x, rfl⟩)
    exact not_givesCell_of_isUnsuited fails absent
  | _ => cases scalar

/-- The absent value on the left side of an operator, or on both sides, is the result. On the right
side of a scalar it is the result exactly for the comparisons that take both sides as they are. A
calculation fails there, and so does the equality of a number; the equality of a text or a truth
value asks whether it is empty or false. -/
theorem absence_propagates_iff (op : Operator) {c : Address} (scalar : v.isScalar = true)
    (held : m.store.get? a = some (.cell v)) (absent : m.store.get? b = some (.cell .null))
    (absent' : m.store.get? c = some (.cell .null)) :
    GivesCell .null (operate op (.object b) (.object a)) m ∧
    GivesCell .null (operate op (.object b) (.object c)) m ∧
    (GivesCell .null (operate op (.object a) (.object b)) m ↔
      ∃ p ∈ plainComparisons, op = .comparison p) ∧
    (∀ o, op = .arithmetic o → IsUnsuited (operate op (.object a) (.object b)) m) ∧
    (op = .comparison .eq →
      (((∃ n, v = .int n) ∨ ∃ x, v = .float x) →
        IsUnsuited (operate op (.object a) (.object b)) m) ∧
      (∀ s, v = .text s → GivesCell (.bool (s == "")) (operate op (.object a) (.object b)) m) ∧
      ∀ t, v = .bool t → GivesCell (.bool !t) (operate op (.object a) (.object b)) m) := by
  cases op with
  | arithmetic o =>
    have fails : IsUnsuited (operate (.arithmetic o) (.object a) (.object b)) m :=
      calculate_absent_right scalar held absent o
    refine ⟨calculate_absent_left o absent held, calculate_absent_left o absent absent', ?_, ?_, ?_⟩
    · constructor
      · intro gives
        exact absurd gives (not_givesCell_of_isUnsuited fails)
      · rintro ⟨p, -, same⟩
        cases same
    · intro _ _
      exact fails
    · intro same
      cases same
  | comparison p =>
    refine ⟨compare_absent_left p absent held, compare_absent_left p absent absent', ?_, ?_, ?_⟩
    · constructor
      · intro gives
        refine ⟨p, ?_, rfl⟩
        have other : p ≠ .eq := by
          rintro rfl
          exact equal_absent_right scalar held absent gives
        cases p <;> first | decide | exact absurd rfl other
      · rintro ⟨q, plain, same⟩
        cases same
        exact compare_absent_right scalar held absent plain
    · intro o same
      cases same
    · intro same
      cases same
      refine ⟨equal_absent_number absent held, ?_, ?_⟩
      · rintro s rfl
        exact equal_absent_text absent held
      · rintro t rfl
        exact equal_absent_bool absent held

end

def besideAbsence (n : Int) : Machine := (({} : Machine).push (.cell (.int n))).push (.cell .null)

theorem unequal_absence :
    GivesCell .null (operate (.comparison .ne) (.object 2) (.object 1)) (besideAbsence 1) ∧
    GivesCell .null (operate (.comparison .ne) (.object 1) (.object 2)) (besideAbsence 1) := by
  have held : (besideAbsence 1).store.get? 1 = some (.cell (.int 1)) := rfl
  have absent : (besideAbsence 1).store.get? 2 = some (.cell .null) := rfl
  obtain ⟨left, -, right, -, -⟩ := absence_propagates_iff (.comparison .ne) rfl held absent absent
  exact ⟨left, right.2 ⟨.ne, by decide, rfl⟩⟩

/-- A number and the absent value have a sum only in one order, and are compared for equality only
in that order. -/
theorem absence_on_right_fails :
    GivesCell .null (operate (.arithmetic .add) (.object 2) (.object 1)) (besideAbsence 1) ∧
    ¬ GivesCell .null (operate (.arithmetic .add) (.object 1) (.object 2)) (besideAbsence 1) ∧
    ¬ GivesCell .null (operate (.comparison .eq) (.object 1) (.object 2)) (besideAbsence 1) := by
  have held : (besideAbsence 1).store.get? 1 = some (.cell (.int 1)) := rfl
  have absent : (besideAbsence 1).store.get? 2 = some (.cell .null) := rfl
  refine ⟨calculate_absent_left .add absent held, ?_, equal_absent_right rfl held absent⟩
  exact not_givesCell_of_isUnsuited (calculate_absent_right rfl held absent .add)

end Eval
end BlockScript
