import BlockScript.Proofs.Core.Target
import BlockScript.Proofs.Owners

/-!
Evaluating the expressions of the imperative core. On a machine whose names stand for cells with the
integers of a state, an expression gives a cell with its value in that state, if only it is granted
as many steps as it costs, and no cell that was there before is changed.
-/

namespace BlockScript.Core
open Eval Run

def helpers : List Routine := [.wrap, .negate, .range]

/-- Names stand for cells with the integers that they have in a state, and those of the helpers for
the helpers. -/
structure Reads (place : Place) (scope : List String) (σ : State) (m : Machine) : Prop where
  helper : ∀ r ∈ helpers, place.Sees m r.name (.routine r)
  cell : ∀ name ∈ scope, ∃ a, place.Sees m name (.object a) ∧
    m.store.get? a = some (.cell (.int (σ name)))

def Gives (content : Value) (m : Machine) (v : Value) (m' : Machine) : Prop :=
  m.Grows m' ∧ ∃ a, v = .object a ∧ m'.store.get? a = some (.cell content)

lemma gives_push (content : Value) (m) :
    Gives content m (.object m.store.size) (m.push (.cell content)) :=
  ⟨.push m _, _, rfl, m.get?_push_size _⟩

lemma Gives.after (grows : m.Grows m') (gives : Gives content m' v m'') : Gives content m v m'' :=
  ⟨grows.trans gives.1, gives.2⟩

lemma Reads.grows (reads : Reads place scope σ m) (grows : m.Grows m') :
    Reads place scope σ m' where
  helper r known := (reads.helper r known).grows grows
  cell name member := by
    obtain ⟨a, sees, found⟩ := reads.cell name member
    exact ⟨a, sees.grows grows, grows.kept a _ found⟩

lemma settles_name {name : String} (sees : place.Sees m name v) (granted : enough → 1 ≤ steps)
    (due : P v m) :
    Settles enough (evaluate place steps (.name name) m) P := by
  cases steps with
  | zero => exact .short granted (by decide)
  | succ k => exact .of_ok sees.lookUp due

lemma settles_nil (granted : enough → 1 ≤ steps) (due : P [] m) :
    Settles enough (evaluateAll place steps [] m) P := by
  cases steps with
  | zero => exact .short granted (by decide)
  | succ k => exact due

lemma settles_cons (granted : enough → 1 ≤ steps)
    (first : Settles enough (evaluate place (steps - 1) e m) P)
    (others : ∀ v m', P v m' → Settles enough (evaluateAll place (steps - 1) rest m')
      fun vs => Q (v :: vs)) :
    Settles enough (evaluateAll place steps (e :: rest) m) Q := by
  cases steps with
  | zero => exact .short granted (by decide)
  | succ k =>
    rw [evaluateAll]
    exact first.bind fun v m' given => (others v m' given).bind fun vs m'' all => all

lemma settles_call (sees : place.Sees m func callee) (ordinary : callee ≠ .routine .locals)
    (granted : enough → 1 ≤ steps) (arguments : Settles enough (evaluateAll place steps args m) Q)
    (called : ∀ vs m', Q vs m' → Settles enough (call steps callee vs m') P) :
    Settles enough (evaluate place (steps + 1) (.call (.name func) args) m) P := by
  have found := settles_name (P := fun v m' => v = callee ∧ m' = m) sees granted ⟨rfl, rfl⟩
  refine found.bind ?_
  rintro _ _ ⟨rfl, rfl⟩
  refine arguments.bind fun vs m' given => ?_
  split
  · exact absurd rfl ordinary
  · exact called vs m' given

lemma settles_helper (sees : place.Sees m r.name (.routine r))
    (known : r ∈ helpers) (granted : enough → 1 ≤ steps)
    (arguments : Settles enough (evaluateAll place steps args m) Q)
    (applied : ∀ vs m', Q vs m' → Settles enough (Library.apply r vs m') P) :
    Settles enough (evaluate place (steps + 1) (.call (.name r.name) args) m) P := by
  have ordinary : ∀ r ∈ helpers, Value.routine r ≠ .routine .locals := by
    intro r mem same
    cases same
    exact absurd mem (by decide)
  refine settles_call sees (ordinary r known) granted arguments fun vs m' given => ?_
  cases steps with
  | zero => exact .short granted (by decide)
  | succ k => exact applied vs m' given

def Arith.cost : Arith → Nat
  | number _ | name _ => 3
  | negative operand => operand.cost + 3
  | calculate left _ right => max left.cost right.cost + 3

def Condition.cost : Condition → Nat
  | compare left _ right => max left.cost right.cost + 3
  | both left right | either left right => max left.cost right.cost + 3
  | negation operand => operand.cost + 3

lemma Arith.three_le_cost (e : Arith) : 3 ≤ e.cost := by
  cases e <;> simp [cost]

lemma calculate_cells (op : Calculation) (left : m.store.get? a = some (.cell (.int x)))
    (right : m.store.get? b = some (.cell (.int y))) :
    Eval.calculate op.arithmetic (.object a) (.object b) m =
      .ok (.object m.store.size) (m.push (.cell (.int (op.apply x y)))) := by
  cases op <;> exact onCells_ints left right rfl

lemma holds_compare (op) (x y : Int) : op.holds (Ord.compare x y) = relates op x y := by
  rcases lt_trichotomy x y with less | rfl | more
  · rw [compare_lt_iff_lt.2 less]
    cases op <;> simp [Comparison.holds, relates, less, less.le, less.ne]
  · cases op <;> simp [Comparison.holds, relates]
  · rw [compare_gt_iff_gt.2 more]
    cases op <;> simp [Comparison.holds, relates, more, more.le, more.ne']

lemma holds_ints (op) (x y : Int) (m) :
    Eval.holds op (.int x) (.int y) m = .ok (relates op x y) m := by
  rw [← holds_compare]
  rfl

lemma settles_literal (value) (granted : enough → 1 ≤ steps) :
    Settles enough (evaluate place steps (.constant value) m) fun v m' =>
      v = literal value ∧ m' = m := by
  cases steps with
  | zero => exact .short granted (by decide)
  | succ k => exact ⟨rfl, rfl⟩

lemma settles_wrapped (sees : place.Sees m Routine.wrap.name (.routine .wrap))
    (inner : ∀ {steps}, Settles (c + 1 ≤ steps) (evaluate place steps e m) fun w m' =>
      w = v ∧ m' = m)
    (wrapped : wrap v m = .ok (.object m.store.size) (m.push (.cell v))) :
    Settles (c + 3 ≤ steps) (evaluate place steps (.call (.name Routine.wrap.name) [e]) m)
      fun w m' => w = .object m.store.size ∧ m' = m.push (.cell v) := by
  cases steps with
  | zero => exact .exhausted (by omega)
  | succ k =>
    have arg : Settles (c + 3 ≤ k + 1) (evaluateAll place k [e] m) fun vs m' =>
        vs = [v] ∧ m' = m := by
      refine settles_cons (by omega) (inner.fewer (by omega)) ?_
      rintro _ _ ⟨rfl, rfl⟩
      exact settles_nil (by omega) ⟨rfl, rfl⟩
    refine settles_helper sees (by decide) (by omega) arg ?_
    rintro _ _ ⟨rfl, rfl⟩
    exact .of_ok wrapped ⟨rfl, rfl⟩

lemma settles_number (sees : place.Sees m Routine.wrap.name (.routine .wrap)) (n) :
    Settles (3 ≤ steps) (evaluate place steps (Arith.number n).target m) fun v m' =>
      v = .object m.store.size ∧ m' = m.push (.cell (.int n)) :=
  settles_wrapped sees (settles_literal _ id) (wrap_int n m)

lemma gives_wrapped (sees : place.Sees m Routine.wrap.name (.routine .wrap))
    (inner : ∀ {steps}, Settles (3 ≤ steps) (evaluate place steps e m) fun w m' => w = v ∧ m' = m)
    (wrapped : wrap v m = .ok (.object m.store.size) (m.push (.cell v))) :
    Settles (6 ≤ steps) (evaluate place steps (.call (.name Routine.wrap.name) [e]) m)
      (Gives v m) := by
  refine ((settles_wrapped sees inner wrapped).fewer (by omega)).mono ?_
  rintro _ _ ⟨rfl, rfl⟩
  exact gives_push v m

lemma settles_bare {name : String} (sees : place.Sees m name callee)
    (ordinary : callee ≠ .routine .locals) (ran : ∀ k, Run.call (k + 1) callee [] m = .ok v m) :
    Settles (3 ≤ steps) (evaluate place steps (.call (.name name) []) m) fun w m' =>
      w = v ∧ m' = m := by
  cases steps with
  | zero => exact .exhausted (by decide)
  | succ k =>
    refine settles_call sees ordinary (by omega)
      (settles_nil (P := fun vs m' => vs = [] ∧ m' = m) (by omega) ⟨rfl, rfl⟩) ?_
    rintro _ _ ⟨rfl, rfl⟩
    cases k with
    | zero => exact .exhausted (by decide)
    | succ k => exact .of_ok (ran k) ⟨rfl, rfl⟩

lemma settles_reference {name : String} (sees : place.Sees m name (.object a))
    (found : m.store.get? a = some (.cell content)) :
    Settles (3 ≤ steps) (evaluate place steps (.call (.name name) []) m) fun v m' =>
      v = .object a ∧ m' = m :=
  settles_bare sees nofun fun _ => call_cell found

lemma settles_connect (steps) (conn : Connective) {decided : Bool}
    (truth_left : ∀ m, contentTruth x m = .ok decided m)
    (first : ∀ {steps}, Settles (c ≤ steps) (evaluate place steps left m) (Gives x m))
    (second : ∀ {steps m'}, m.Grows m' →
      Settles (d ≤ steps) (evaluate place steps right m') (Gives y m')) :
    Settles (max c d + 3 ≤ steps) (evaluate place steps (.connect conn [left, right]) m)
      (Gives (if decided == (conn == .either) then x else y) m) := by
  obtain _ | _ | _ | k := steps
  iterate 3 exact .exhausted (by omega)
  · rw [evaluate, connect]
    · refine (first.fewer (by omega)).bind ?_
      rintro _ m1 ⟨grows, a, rfl, found⟩
      rw [bind_ok (truth_content found (truth_left m1))]
      split
      · exact ⟨grows, a, rfl, found⟩
      · rw [connect]
        exact ((second grows).fewer (by omega)).mono fun v m2 gives => gives.after grows
    · exact cons_ne_nil right []

lemma settles_pair
    (first : ∀ {steps}, Settles (c ≤ steps) (evaluate place steps left m) (Gives x m))
    (second : ∀ {steps m'}, m.Grows m' →
      Settles (d ≤ steps) (evaluate place steps right m') (Gives y m')) :
    Settles (3 ≤ steps ∧ max c d + 2 ≤ steps) (evaluateAll place steps [left, right] m) fun vs m' =>
      ∃ a b, vs = [.object a, .object b] ∧ m.Grows m' ∧ m'.store.get? a = some (.cell x) ∧
        m'.store.get? b = some (.cell y) := by
  refine settles_cons (by omega) (first.fewer (by omega)) ?_
  rintro _ m1 ⟨grows1, a, rfl, found1⟩
  refine settles_cons (by omega) ((second grows1).fewer (by omega)) ?_
  rintro _ m2 ⟨grows2, b, rfl, found2⟩
  exact settles_nil (by omega) ⟨a, b, rfl, grows1.trans grows2, grows2.kept a _ found1, found2⟩

lemma settles_negated (steps) (sees : place.Sees m Routine.negate.name (.routine .negate))
    (inner : ∀ {steps}, Settles (c ≤ steps) (evaluate place steps operand m) (Gives x m))
    (negated : ∀ {m} {a}, m.store.get? a = some (.cell x) →
      Query.negate (.object a) m = .ok (.object m.store.size) (m.push (.cell y))) :
    Settles (c + 3 ≤ steps)
      (evaluate place steps (.call (.name Routine.negate.name) [operand]) m) (Gives y m) := by
  cases steps with
  | zero => exact .exhausted (by omega)
  | succ k =>
    have arg : Settles (c + 3 ≤ k + 1) (evaluateAll place k [operand] m)
        fun vs m' => ∃ v, vs = [v] ∧ Gives x m v m' := by
      refine settles_cons (by omega) (inner.fewer (by omega)) fun v m' gives => ?_
      exact settles_nil (by omega) ⟨v, rfl, gives⟩
    refine settles_helper sees (by decide) (by omega) arg ?_
    rintro _ m1 ⟨_, rfl, grows, a, rfl, found⟩
    exact .of_ok (negated found) (.after grows (gives_push _ m1))

/-- Where the result of an expression stands: a name gives its own cell, and any other expression a
new one. -/
def Arith.StandsAt (place : Place) (m : Machine) (a : Address) : Arith → Prop
  | name id => place.Sees m id (.object a)
  | _ => m.store.size ≤ a

variable {e : Arith} (reads : Reads place scope σ m)
include reads

lemma settles_operand (covered : e.isOver scope = true) :
    Settles (e.cost ≤ steps) (evaluate place steps e.target m) fun v m' =>
      m.Grows m' ∧ ∃ a, v = .object a ∧ m'.store.get? a = some (.cell (.int (e.value σ))) ∧
        e.StandsAt place m a := by
  induction e generalizing steps m with
  | number n =>
    refine (settles_number (reads.helper .wrap (by decide)) n).mono ?_
    rintro _ _ ⟨rfl, rfl⟩
    exact ⟨.push m _, _, rfl, m.get?_push_size _, Nat.le_refl m.store.size⟩
  | name id =>
    have mem : id ∈ scope := by simpa [Arith.isOver] using covered
    obtain ⟨a, sees, found⟩ := reads.cell id mem
    refine (settles_reference sees found).mono ?_
    rintro _ _ ⟨rfl, rfl⟩
    exact ⟨.refl _, a, rfl, found, sees⟩
  | negative operand ih =>
    cases steps with
    | zero => exact .exhausted (by simp [Arith.cost])
    | succ k =>
      refine ((ih reads covered).fewer (by simp only [Arith.cost]; omega)).bind ?_
      rintro _ m1 ⟨grows, a, rfl, found, -⟩
      exact .of_ok (neg_cell found) ⟨grows.trans (.push m1 _), _, rfl, m1.get?_push_size _,
        grows.advances.size_le⟩
  | calculate left op right ihl ihr =>
    rw [Arith.isOver, and_eq_true] at covered
    cases steps with
    | zero => exact .exhausted (by simp [Arith.cost])
    | succ k =>
      refine ((ihl reads covered.1).fewer (by simp only [Arith.cost]; omega)).bind ?_
      rintro _ m1 ⟨grows1, a, rfl, found1, -⟩
      refine ((ihr (reads.grows grows1) covered.2).fewer (by simp only [Arith.cost]; omega)).bind ?_
      rintro _ m2 ⟨grows2, b, rfl, found2, -⟩
      have grows := grows1.trans grows2
      exact .of_ok (calculate_cells op (grows2.kept a _ found1) found2)
        ⟨grows.trans (.push m2 _), _, rfl, m2.get?_push_size _, grows.advances.size_le⟩

lemma settles_arith (covered : e.isOver scope = true) :
    Settles (e.cost ≤ steps) (evaluate place steps e.target m) (Gives (.int (e.value σ)) m) := by
  refine (settles_operand reads covered).mono ?_
  rintro v m' ⟨grows, a, rfl, found, -⟩
  exact ⟨grows, a, rfl, found⟩

lemma settles_condition {c : Condition} (covered : c.isOver scope = true) :
    Settles (c.cost ≤ steps) (evaluate place steps c.target m) (Gives (.bool (c.holds σ)) m) := by
  induction c generalizing steps m with
  | compare left comparison right =>
    rw [Condition.isOver, and_eq_true] at covered
    cases steps with
    | zero => exact .exhausted (by simp [Condition.cost])
    | succ k =>
      refine ((settles_arith reads covered.1).fewer (by simp only [Condition.cost]; omega)).bind ?_
      rintro _ m1 ⟨grows1, a, rfl, found1⟩
      refine ((settles_arith (reads.grows grows1) covered.2).fewer
        (by simp only [Condition.cost]; omega)).bind ?_
      rintro _ m2 ⟨grows2, b, rfl, found2⟩
      refine .of_ok (compare_cells comparison (grows2.kept a _ found1) found2) ?_
      rw [holds_compare]
      exact .after (grows1.trans grows2) (gives_push _ m2)
  | both left right ihl ihr =>
    rw [Condition.isOver, and_eq_true] at covered
    have connected := settles_connect steps .both (fun _ => rfl) (ihl reads covered.1)
      fun grows => ihr (reads.grows grows) covered.2
    rwa [show (if left.holds σ == (Connective.both == .either) then .bool (left.holds σ)
      else .bool (right.holds σ)) = Value.bool (left.holds σ && right.holds σ) by
        cases left.holds σ <;> rfl] at connected
  | either left right ihl ihr =>
    rw [Condition.isOver, and_eq_true] at covered
    have connected := settles_connect steps .either (fun _ => rfl) (ihl reads covered.1)
      fun grows => ihr (reads.grows grows) covered.2
    rwa [show (if left.holds σ == (Connective.either == .either) then .bool (left.holds σ)
      else .bool (right.holds σ)) = Value.bool (left.holds σ || right.holds σ) by
        cases left.holds σ <;> rfl] at connected
  | negation operand ih =>
    exact settles_negated steps (reads.helper .negate (by decide)) (ih reads covered) negate_cell

lemma settles_range {lower upper : Arith}
    (overs : lower.isOver scope = true ∧ upper.isOver scope = true) :
    Settles (max lower.cost upper.cost + 3 ≤ steps)
      (evaluate place steps (.call (.name "mrange") [lower.target, upper.target]) m) fun v m' =>
      ∃ a b, v = .range (.object a) (.object b) ∧ m.Grows m' ∧
        m'.store.get? a = some (.cell (.int (lower.value σ))) ∧
        m'.store.get? b = some (.cell (.int (upper.value σ))) := by
  have cheap := upper.three_le_cost
  cases steps with
  | zero => exact .exhausted (by omega)
  | succ k =>
    refine settles_helper (reads.helper .range (by decide)) (by decide) (by omega)
      ((settles_pair (settles_arith reads overs.1) fun grows =>
        settles_arith (reads.grows grows) overs.2).fewer (by omega)) ?_
    rintro _ m' ⟨a, b, rfl, rest⟩
    exact ⟨a, b, rfl, rest⟩

end BlockScript.Core
