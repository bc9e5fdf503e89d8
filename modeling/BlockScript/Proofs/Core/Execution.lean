import BlockScript.Proofs.Core.Evaluation

/-!
Running the commands of the imperative core. Each kind of command has a rule that says what its run
comes to if the runs of its parts come to something.
-/

namespace BlockScript.Core
open Eval Run Machine

lemma slot_ne {place : Place} (differ : x ≠ y) : place.slot x ≠ place.slot y :=
  fun same => differ (by rw [← place.slot_name x, same, place.slot_name])

section

variable {place : Place} {m : Machine}

section

variable (outside : place.package = none)
include outside

lemma get?_bound_elsewhere (other : place.frame ≠ some b) :
    (m.bound (place.slot name) v).store.get? b = m.store.get? b := by
  obtain ⟨frame, pkg, used⟩ := place
  cases outside
  cases frame with
  | none => rfl
  | some a =>
    simp only [Place.slot, bound]
    split
    · exact get?_put_of_ne (fun same => other (by rw [same])) m _
    · rfl

lemma globals_bound (here : place.frame = some a) :
    (m.bound (place.slot name) v).globals = m.globals := by
  obtain ⟨frame, pkg, used⟩ := place
  cases outside
  cases here
  simp only [Place.slot, bound]
  split <;> rfl

lemma get?_bound_cell (found : m.store.get? b = some (.cell w)) :
    (m.bound (place.slot name) v).store.get? b = some (.cell w) := by
  by_cases here : place.frame = some b
  · obtain ⟨frame, pkg, used⟩ := place
    cases outside
    cases here
    simp [Place.slot, bound, found]
  · rw [get?_bound_elsewhere outside here]
    exact found

end

end

/-- Where commands run: a place and a machine. -/
structure Site (names given : List String) where
  place : Place
  base : Machine
  unshared : ∀ name ∈ names, ∀ r ∈ helpers, r.name ≠ name
  new : ∀ name ∈ names, name ∉ given
  known : ∀ name ∈ given, ∃ a, base.slot? (place.slot name) = some (.object a)

section

variable {site : Site names given}

/-- The machine has changed no older object than the cells of the given names, which are theirs
still. -/
structure Site.Spares (site : Site names given) (m : Machine) : Prop where
  size : site.base.store.size ≤ m.store.size
  bindings : ∀ name ∈ given,
    m.slot? (site.place.slot name) = site.base.slot? (site.place.slot name)
  globals : ∀ a, site.place.frame = some a → m.globals = site.base.globals
  kept : ∀ b o, site.base.store.get? b = some o → site.place.frame ≠ some b →
    (∀ name ∈ given, site.base.slot? (site.place.slot name) ≠ some (.object b)) →
    m.store.get? b = some o

structure Agrees (site : Site names given) (scope : List String) (σ : State) (m : Machine) :
    Prop where
  helper : ∀ r ∈ helpers, site.place.Sees m r.name (.routine r)
  binds : ∀ name ∈ names ++ given, site.place.Binds m name
  visible : scope ⊆ names ++ given
  cell : ∀ name ∈ scope, ∃ a, m.slot? (site.place.slot name) = some (.object a) ∧
    m.store.get? a = some (.cell (.int (σ name)))
  apart : ∀ x ∈ scope, ∀ y ∈ scope, x ≠ y →
    m.slot? (site.place.slot x) ≠ m.slot? (site.place.slot y)
  younger : ∀ name ∈ scope, name ∉ given → ∀ a,
    m.slot? (site.place.slot name) = some (.object a) → site.base.store.size ≤ a
  spares : site.Spares m

namespace Site.Spares

lemma refl (site : Site names given) : site.Spares site.base where
  size := Nat.le_refl _
  bindings _ _ := rfl
  globals _ _ := rfl
  kept _ _ found _ _ := found

section

variable (spares : site.Spares m)
include spares

lemma grows (grows : m.Grows m') : site.Spares m' where
  size := spares.size.trans grows.advances.size_le
  bindings name member := by
    obtain ⟨a, bound⟩ := site.known name member
    rw [bound, grows.slot? ((spares.bindings name member).trans bound)]
  globals a here := grows.globals.trans (spares.globals a here)
  kept b o found other unnamed := grows.kept b o (spares.kept b o found other unnamed)

lemma bound (binds : site.place.Binds m name)
    (same : name ∈ given → m.slot? (site.place.slot name) = some v) :
    site.Spares (m.bound (site.place.slot name) v) where
  size := spares.size.trans (Advances.bound m _ v).size_le
  bindings other member := by
    rw [← spares.bindings other member]
    by_cases equal : other = name
    · subst equal
      rw [slot?_bound_self binds.has, same member]
    · exact slot?_bound_of_ne binds.has (slot_ne equal)
  globals a here := (globals_bound binds.1 here).trans (spares.globals a here)
  kept b o found other unnamed := by
    rw [get?_bound_elsewhere binds.1 other]
    exact spares.kept b o found other unnamed

lemma put (here : m.slot? (site.place.slot name) = some (.object a))
    (young : name ∉ given → site.base.store.size ≤ a)
    (found : m.store.get? a = some (.cell w)) (new : Value) :
    site.Spares (m.put a (.cell new)) where
  size := spares.size.trans (Follows.put found (o := .cell new) rfl).size_le
  bindings other among := by
    rw [(Follows.put found (o := .cell new) rfl).slot?]
    exact spares.bindings other among
  globals b inside := spares.globals b inside
  kept b o found other unnamed := by
    have apart : a ≠ b := by
      rintro rfl
      by_cases mem : name ∈ given
      · exact unnamed name mem ((spares.bindings name mem).symm.trans here)
      · exact absurd (get?_lt found) (Nat.not_lt.2 (young mem))
    rw [get?_put_of_ne apart]
    exact spares.kept b o found other unnamed

end

end Site.Spares

namespace Agrees

section

variable (agrees : Agrees site scope σ m)
include agrees

lemma reads : Reads site.place scope σ m where
  helper := agrees.helper
  cell name member := by
    obtain ⟨a, bound, found⟩ := agrees.cell name member
    exact ⟨a, (agrees.binds name (agrees.visible member)).sees bound, found⟩

lemma grows (grows : m.Grows m') : Agrees site scope σ m' := by
  have same : ∀ name ∈ scope, m'.slot? (site.place.slot name) = m.slot? (site.place.slot name) := by
    intro name mem
    obtain ⟨a, bound, -⟩ := agrees.cell name mem
    rw [bound, grows.slot? bound]
  constructor
  · exact fun r known => (agrees.helper r known).grows grows
  · exact fun name mem => (agrees.binds name mem).advance grows.advances
  · exact agrees.visible
  · intro name mem
    obtain ⟨a, bound, found⟩ := agrees.cell name mem
    exact ⟨a, (same name mem).trans bound, grows.kept a _ found⟩
  · intro x inside y among
    rw [same x inside, same y among]
    exact agrees.apart x inside y among
  · intro name mem
    rw [same name mem]
    exact agrees.younger name mem
  · exact agrees.spares.grows grows

lemma narrow (part : fewer ⊆ scope) : Agrees site fewer σ m := { agrees with
    visible := fun _ mem => agrees.visible (part mem)
    cell := fun name mem => agrees.cell name (part mem)
    apart := fun x inside y among => agrees.apart x (part inside) y (part among)
    younger := fun name mem => agrees.younger name (part mem) }

lemma declare (own : name ∈ names) (fresh : name ∉ scope) :
    Agrees site (name :: scope) (σ.set name n)
      ((m.push (.cell (.int n))).bound (site.place.slot name) (.object m.store.size)) := by
  have agrees' := agrees.grows (.push m (.cell (.int n)))
  have binds := agrees'.binds name (mem_append_left _ own)
  have adv := Advances.bound (m.push (.cell (.int n))) (site.place.slot name)
    (.object m.store.size)
  have kept {s} (ne : s.name ≠ name) :
      ((m.push (.cell (.int n))).bound (site.place.slot name) (.object m.store.size)).slot? s =
        (m.push (.cell (.int n))).slot? s :=
    slot?_bound_of_ne binds.has fun same => ne (by rw [same, site.place.slot_name])
  have here := slot?_bound_self (v := .object m.store.size) binds.has
  have named {other} (ne : other ≠ name) :
      (site.place.slot other).name ≠ name := by rwa [site.place.slot_name]
  -- the cells of the scope are older than the new one
  have older {other} (mem : other ∈ scope) :
      (m.push (.cell (.int n))).slot? (site.place.slot other) ≠ some (.object m.store.size) := by
    obtain ⟨a, bound, found⟩ := agrees.cell other mem
    rw [(Grows.push m _).slot? bound]
    intro same
    cases same
    exact absurd (Store.lt_size_of_get? found) (Nat.lt_irrefl _)
  have ne {other} (mem) : other ≠ name := fun same => fresh (same ▸ mem)
  constructor
  · intro r known
    refine (agrees'.helper r known).advance adv fun s named bound => ?_
    rw [kept (named ▸ site.unshared name own r known), bound]
  · exact fun other mem => (agrees'.binds other mem).advance adv
  · exact List.cons_subset.2 ⟨mem_append_left _ own, agrees.visible⟩
  · intro other mem
    rcases mem_cons.1 mem with rfl | inside
    · refine ⟨m.store.size, here, ?_⟩
      rw [State.set, if_pos rfl]
      exact get?_bound_cell binds.1 (m.get?_push_size _)
    · obtain ⟨a, bound, found⟩ := agrees'.cell other inside
      refine ⟨a, (kept (named (ne inside))).trans bound, ?_⟩
      rw [State.set, if_neg (ne inside)]
      exact get?_bound_cell binds.1 found
  · intro x first y second apart
    rcases mem_cons.1 first with rfl | inside <;> rcases mem_cons.1 second with rfl | among
    · exact absurd rfl apart
    · rw [here, kept (named (ne among))]
      exact (older among).symm
    · rw [here, kept (named (ne inside))]
      exact older inside
    · rw [kept (named (ne inside)), kept (named (ne among))]
      exact agrees'.apart x inside y among apart
  · intro other mem new b bound
    rcases mem_cons.1 mem with rfl | inside
    · cases here.symm.trans bound
      exact agrees.spares.size
    · exact agrees'.younger other inside new b ((kept (named (ne inside))).symm.trans bound)
  · exact agrees'.spares.bound binds fun mem => absurd mem (site.new name own)

lemma update (mem : name ∈ scope) (here : m.slot? (site.place.slot name) = some (.object a)) :
    Agrees site scope (σ.set name n)
      ((m.put a (.cell (.int n))).bound (site.place.slot name) (.object a)) := by
  obtain ⟨_, also, found⟩ := agrees.cell name mem
  cases here.symm.trans also
  have follows : m.Follows (m.put a (.cell (.int n))) := .put found rfl
  have adv := follows.advances.trans
    (.bound (m.put a (.cell (.int n))) (site.place.slot name) (.object a))
  have binds := (agrees.binds name (agrees.visible mem)).advance follows.advances
  have same (s) : ((m.put a (.cell (.int n))).bound (site.place.slot name)
      (.object a)).slot? s = m.slot? s := by
    rw [← follows.slot? s]
    by_cases equal : s = site.place.slot name
    · subst equal
      rw [slot?_bound_self binds.has, follows.slot?, here]
    · exact slot?_bound_of_ne binds.has equal
  constructor
  · intro r known
    refine (agrees.helper r known).advance adv fun s _ bound => ?_
    rw [same, bound]
  · exact fun other among => (agrees.binds other among).advance adv
  · exact agrees.visible
  · intro other inside
    obtain ⟨b, bound, known⟩ := agrees.cell other inside
    refine ⟨b, (same _).trans bound, get?_bound_cell binds.1 ?_⟩
    by_cases equal : other = name
    · subst equal
      cases here.symm.trans bound
      rw [State.set, if_pos rfl]
      exact get?_put_self (get?_lt found) _
    · have apart : a ≠ b := by
        rintro rfl
        exact agrees.apart other inside name mem equal (bound.trans here.symm)
      rw [State.set, if_neg equal, get?_put_of_ne apart, known]
  · intro x inside y among
    rw [same, same]
    exact agrees.apart x inside y among
  · intro other inside new b
    rw [same]
    exact agrees.younger other inside new b
  · have young (new : name ∉ given) := agrees.younger name mem new a here
    refine (agrees.spares.put here young found (.int n)).bound binds fun _ => ?_
    rw [follows.slot?, here]

end

end Agrees

end

def Outcome.flow : Outcome → Flow
  | next => .next
  | jumped .exit => .broke
  | jumped .skip => .continued

def Task.run (place : Place) (steps : Nat) : Task → Eval Flow
  | command c => execute place steps c.target
  | sequence cs => executeAll place steps (targets cs)
  | rounds index from_ left body => repeatOver place steps index from_ left (targets body)

/-- A run settles with an outcome. -/
def Reaches (enough : Prop) (result : EStateM.Result Stop Machine Flow)
    (promised : Outcome → Machine → Prop) : Prop :=
  Settles enough result fun flow m => ∃ outcome, flow = outcome.flow ∧ promised outcome m

def testTarget (test : Option Condition) : Target.Expr :=
  test.elim (.constant (.bool true)) Condition.target

def testCost (test : Option Condition) : Nat := test.elim 1 Condition.cost

variable {site : Site names given}

lemma Reaches.mono (reaches : Reaches enough result P)
    (weaker : ∀ outcome m, P outcome m → Q outcome m) : Reaches enough result Q := by
  refine Settles.mono reaches ?_
  rintro flow m' ⟨outcome, rfl, due⟩
  exact ⟨outcome, rfl, weaker outcome m' due⟩

lemma reaches_zero (task : Task) (few : ¬ enough) : Reaches enough (task.run site.place 0 m) P := by
  cases task <;> exact Settles.exhausted few

lemma settles_test (test : Option Condition) (agrees : Agrees site scope σ m)
    (covered : test.all (·.isOver scope) = true) (granted : enough → testCost test ≤ steps)
    (next : ∀ m', Agrees site scope σ m' → Settles enough (f (passes σ test) m') R) :
    Settles enough ((evaluate site.place steps (testTarget test) >>= fun v => truth v >>= f) m)
      R := by
  cases test with
  | none =>
    cases steps with
    | zero => exact .short granted (by decide)
    | succ k => exact next m agrees
  | some c =>
    refine ((settles_condition agrees.reads covered).fewer granted).bind ?_
    rintro _ m' ⟨grows, a, rfl, found⟩
    rw [bind_ok (truth_cell found)]
    exact next m' (agrees.grows grows)

lemma reaches_nil (granted : enough → 1 ≤ steps) (due : P .next m) :
    Reaches enough ((Task.sequence []).run site.place steps m) P := by
  cases steps with
  | zero => exact reaches_zero _ fun given => absurd (granted given) (by decide)
  | succ k => exact ⟨.next, rfl, due⟩

lemma reaches_cons (first : Reaches enough ((Task.command c).run site.place steps m) P)
    (rest : ∀ m', P .next m' → Reaches enough ((Task.sequence cs).run site.place steps m') Q)
    (leave : ∀ target m', P (.jumped target) m' → Q (.jumped target) m') :
    Reaches enough ((Task.sequence (c :: cs)).run site.place (steps + 1) m) Q := by
  refine Settles.bind first ?_
  rintro _ m' ⟨outcome, rfl, due⟩
  match outcome with
  | .next => exact rest m' due
  | .jumped .exit => exact ⟨_, rfl, leave .exit m' due⟩
  | .jumped .skip => exact ⟨_, rfl, leave .skip m' due⟩

lemma reaches_assign (agrees : Agrees site scope σ m) (mem : name ∈ scope)
    (covered : e.isOver scope = true) (granted : enough → e.cost ≤ steps)
    (due : ∀ m', Agrees site scope (σ.set name (e.value σ)) m' → P .next m') :
    Reaches enough ((Task.command (.assign name e)).run site.place (steps + 1) m) P := by
  obtain ⟨a, here, found⟩ := agrees.cell name mem
  have sees := (agrees.binds name (agrees.visible mem)).sees here
  rw [show Task.run _ _ _ _ = _ from bind_ok sees.lookUp]
  refine Settles.bind ((settles_arith agrees.reads covered).fewer granted) ?_
  rintro _ m' ⟨grows, b, rfl, value⟩
  have grown := agrees.grows grows
  have updated := grown.update (n := e.value σ) mem (grows.slot? here)
  have has := ((grown.binds name (grown.visible mem)).advance
    (Follows.put (grows.kept a _ found) (o := .cell (.int (e.value σ))) rfl).advances).has
  rw [bind_ok (assign_cell (grows.kept a _ found) value), bind_ok (bindName_eq has _)]
  exact ⟨.next, rfl, due _ updated⟩

lemma reaches_branch {test : Condition} (agrees : Agrees site scope σ m)
    (covered : test.isOver scope = true) (granted : enough → test.cost ≤ steps)
    (next : ∀ m', Agrees site scope σ m' → Reaches enough
      ((Task.sequence (if test.holds σ then body else orelse)).run site.place steps m') P) :
    Reaches enough ((Task.command (.branch test body orelse)).run site.place (steps + 1) m) P := by
  refine settles_test (some test) agrees covered granted fun m' same => ?_
  have chosen := next m' same
  change Settles enough ((if test.holds σ = true then _ else _ : Eval Flow) m') _
  cases held : test.holds σ <;> rw [held] at chosen <;> exact chosen

lemma reaches_jump_always (due : P (.jumped target) m) :
    Reaches enough ((Task.command (.jump target none)).run site.place (steps + 1) m) P := by
  cases target with
  | exit => exact ⟨.jumped .exit, rfl, due⟩
  | skip => exact ⟨.jumped .skip, rfl, due⟩

lemma reaches_jump (agrees : Agrees site scope σ m) (covered : test.all (·.isOver scope) = true)
    (granted : enough → testCost test + 2 ≤ steps)
    (due : ∀ m', Agrees site scope σ m' → P (if passes σ test then .jumped target else .next) m') :
    Reaches enough ((Task.command (.jump target test)).run site.place (steps + 1) m) P := by
  cases test with
  | none => exact reaches_jump_always (due m agrees)
  | some c =>
    change Reaches enough
      ((Task.command (.branch c [.jump target none] [])).run site.place (steps + 1) m) P
    have cheap : enough → c.cost + 2 ≤ steps := granted
    refine reaches_branch agrees covered (fun given => by have := cheap given; omega)
      fun m' same => ?_
    have made := due m' same
    rw [passes, Option.all_some] at made
    split <;> rename_i held
    · rw [if_pos held] at made
      obtain _ | _ | k := steps
      · exact reaches_zero _ fun given => absurd (cheap given) (by omega)
      · exact Settles.short cheap (by omega)
      · refine reaches_cons (P := fun outcome m'' => outcome = .jumped target ∧ m'' = m')
          (reaches_jump_always ⟨rfl, rfl⟩) (fun _ on => nomatch on.1) ?_
        rintro _ _ ⟨⟨⟩, rfl⟩
        exact made
    · rw [if_neg held] at made
      exact reaches_nil (fun given => by have := cheap given; omega) made

lemma reaches_loop_one (few : ¬ enough) :
    Reaches enough ((Task.command (.loop test body)).run site.place 1 m) P := by
  cases test <;> exact Settles.exhausted few

lemma reaches_loop (agrees : Agrees site scope σ m) (covered : test.all (·.isOver scope) = true)
    (granted : enough → testCost test ≤ steps)
    (done : passes σ test = false → ∀ m', Agrees site scope σ m' → Q .next m')
    (round : passes σ test = true → ∀ m', Agrees site scope σ m' →
      Reaches enough ((Task.sequence body).run site.place steps m') P)
    (exit : passes σ test = true → ∀ m', P (.jumped .exit) m' → Q .next m')
    (again : passes σ test = true → ∀ outcome m', P outcome m' → outcome ≠ .jumped .exit →
      Reaches enough ((Task.command (.loop test body)).run site.place (steps + 1) m') Q) :
    Reaches enough ((Task.command (.loop test body)).run site.place (steps + 2) m) Q := by
  have target : (Command.loop test body).target = .whileLoop (testTarget test) (targets body) := by
    cases test <;> rfl
  simp only [Task.run, target] at again ⊢
  refine settles_test test agrees covered granted fun m' same => ?_
  cases made : passes σ test
  · exact ⟨.next, rfl, done made m' same⟩
  · refine Settles.bind (round made m' same) ?_
    rintro _ m'' ⟨outcome, rfl, due⟩
    match outcome with
    | .next => exact again made .next m'' due nofun
    | .jumped .exit => exact ⟨.next, rfl, exit made m'' due⟩
    | .jumped .skip => exact again made (.jumped .skip) m'' due nofun

lemma reaches_count (agrees : Agrees site scope σ m)
    (overs : lower.isOver scope = true ∧ upper.isOver scope = true)
    (granted : enough → max lower.cost upper.cost + 3 ≤ steps)
    (rounds : ∀ m', Agrees site scope σ m' → Reaches enough
      ((Task.rounds index (lower.value σ) (upper.value σ + 1 - lower.value σ).toNat body).run
        site.place steps m') P) :
    Reaches enough ((Task.command (.count index lower upper body)).run site.place (steps + 1) m)
      P := by
  refine Settles.bind ((settles_range agrees.reads overs).fewer granted) ?_
  rintro _ m' ⟨a, b, rfl, grows, found1, found2⟩
  dsimp only
  rw [bind_ok (rangeBounds_cells found1 found2)]
  exact rounds m' (agrees.grows grows)

lemma reaches_noRound (granted : enough → 1 ≤ steps) (due : P .next m) :
    Reaches enough ((Task.rounds index n 0 body).run site.place steps m) P := by
  cases steps with
  | zero => exact reaches_zero _ fun given => absurd (granted given) (by decide)
  | succ k => exact ⟨.next, rfl, due⟩

lemma reaches_round (agrees : Agrees site scope σ m) (own : index ∈ names) (fresh : index ∉ scope)
    (round : ∀ m', Agrees site (index :: scope) (σ.set index n) m' →
      Reaches enough ((Task.sequence body).run site.place steps m') P)
    (exit : ∀ m', P (.jumped .exit) m' → Q .next m')
    (again : ∀ outcome m', P outcome m' → outcome ≠ .jumped .exit →
      Reaches enough ((Task.rounds index (n + 1) left body).run site.place steps m') Q) :
    Reaches enough ((Task.rounds index n (left + 1) body).run site.place (steps + 1) m) Q := by
  have has := ((agrees.binds index (mem_append_left _ own)).advance
    (Grows.push m (.cell (.int n))).advances).has
  rw [Task.run, repeatOver, bind_ok (wrap_int n m), bind_ok (bindName_eq has _)]
  refine Settles.bind (round _ (agrees.declare own fresh)) ?_
  rintro _ m' ⟨outcome, rfl, due⟩
  match outcome with
  | .next => exact again .next m' due nofun
  | .jumped .exit => exact ⟨.next, rfl, exit m' due⟩
  | .jumped .skip => exact again (.jumped .skip) m' due nofun

end BlockScript.Core
