import BlockScript.Proofs.Core.Execution

/-!
Runs and derivations. What a run of a task comes to is derived, and what is derived is what every
run with enough steps comes to.
-/

namespace BlockScript.Core
open Eval Run

def Task.Fits (names vars indices : List String) (inLoop : Bool) : Task → Prop
  | command c => c.isScoped vars indices inLoop = true ∧ ∀ i ∈ c.indices, i ∈ names
  | sequence cs =>
    areScoped vars indices inLoop cs = true ∧ ∀ i ∈ indicesOf cs, i ∈ names
  | rounds index _ _ body =>
    index ∉ vars ++ indices ∧ index ∈ names ∧
      areScoped vars (index :: indices) true body = true ∧ ∀ i ∈ indicesOf body, i ∈ names

namespace Task.Fits

lemma cons (fits : (Task.sequence (c :: cs)).Fits names vars indices inLoop) :
    (Task.command c).Fits names vars indices inLoop ∧
      (Task.sequence cs).Fits names vars indices inLoop := by
  obtain ⟨visible, own⟩ := fits
  rw [areScoped, and_eq_true] at visible
  exact ⟨⟨visible.1, fun i mem => own i (mem_append_left _ mem)⟩,
    ⟨visible.2, fun i mem => own i (mem_append_right _ mem)⟩⟩

lemma branch (fits : (Task.command (.branch test body orelse)).Fits names vars indices inLoop) :
    test.isOver (vars ++ indices) = true ∧ (Task.sequence body).Fits names vars indices inLoop ∧
      (Task.sequence orelse).Fits names vars indices inLoop := by
  obtain ⟨visible, own⟩ := fits
  rw [Command.isScoped, and_eq_true, and_eq_true] at visible
  exact ⟨visible.1.1, ⟨visible.1.2, fun i mem => own i (mem_append_left _ mem)⟩,
    ⟨visible.2, fun i mem => own i (mem_append_right _ mem)⟩⟩

lemma loop (fits : (Task.command (.loop test body)).Fits names vars indices inLoop) :
    test.all (·.isOver (vars ++ indices)) = true ∧
      (Task.sequence body).Fits names vars indices true := by
  obtain ⟨visible, own⟩ := fits
  rw [Command.isScoped, and_eq_true] at visible
  exact ⟨visible.1, visible.2, own⟩

lemma count (fits : (Task.command (.count index lower upper body)).Fits names vars indices inLoop) :
    (lower.isOver (vars ++ indices) = true ∧ upper.isOver (vars ++ indices) = true) ∧
      ∀ n left, (Task.rounds index n left body).Fits names vars indices inLoop := by
  obtain ⟨visible, own⟩ := fits
  simp only [Command.isScoped, and_eq_true, Bool.not_eq_true', contains_eq_mem,
    decide_eq_false_iff_not] at visible
  obtain ⟨⟨overs, fresh⟩, inner⟩ := visible
  exact ⟨overs, fun n left => ⟨fresh, own index mem_cons_self, inner,
    fun i mem => own i (mem_cons_of_mem _ mem)⟩⟩

end Task.Fits

variable {outcome : Outcome} {site : Site names given}

lemma Exec.loop_next (derived : Exec (.command (.loop test body)) σ outcome τ) :
    outcome = .next := by
  cases derived <;> rfl

lemma Exec.rounds_next (derived : Exec (.rounds index n left body) σ outcome τ) :
    outcome = .next := by
  cases derived <;> rfl

lemma Exec.next_outside (derived : Exec task σ outcome τ)
    (fits : task.Fits names vars indices false) : outcome = .next := by
  induction derived with
  | cons first rest ih1 ih2 => exact ih2 fits.cons.2
  | leave first ih => exact ih fits.cons.1
  | branchTrue test run ih => exact ih fits.branch.2.1
  | branchFalse test run ih => exact ih fits.branch.2.2
  | jump test => cases fits.1
  | _ => rfl

lemma inner_subset (index : String) : vars ++ indices ⊆ vars ++ index :: indices := by
  simp

lemma subset_inner (index : String) : vars ++ index :: indices ⊆ index :: (vars ++ indices) := by
  intro name mem
  simp only [mem_append, mem_cons] at mem ⊢
  tauto

lemma reaches_derived (steps) (fits : task.Fits names vars indices inLoop)
    (agrees : Agrees site (vars ++ indices) σ m) :
    Reaches False (task.run site.place steps m) fun outcome m' =>
      ∃ τ, Exec task σ outcome τ ∧ Agrees site (vars ++ indices) τ m' := by
  induction steps using Nat.strongRecOn generalizing task σ m indices inLoop with
  | ind steps ih =>
    cases steps with
    | zero => exact reaches_zero task id
    | succ k =>
      match task with
      | .sequence [] => exact reaches_nil False.elim ⟨σ, .nil, agrees⟩
      | .sequence (c :: cs) =>
        obtain ⟨head, tail⟩ := fits.cons
        refine reaches_cons (ih k (Nat.lt_succ_self k) head agrees) ?_ ?_
        · rintro m' ⟨τ, first, same⟩
          refine (ih k (Nat.lt_succ_self k) tail same).mono ?_
          rintro outcome m'' ⟨υ, rest, same'⟩
          exact ⟨υ, .cons first rest, same'⟩
        · rintro target m' ⟨τ, first, same⟩
          exact ⟨τ, .leave first, same⟩
      | .command (.assign name value) =>
        obtain ⟨visible, -⟩ := fits
        rw [Command.isScoped, and_eq_true, contains_eq_mem, decide_eq_true_eq] at visible
        exact reaches_assign agrees (mem_append_left _ visible.1) visible.2
          False.elim fun m' same => ⟨_, .assign, same⟩
      | .command .null => exact ⟨.next, rfl, σ, .null, agrees⟩
      | .command (.branch test body orelse) =>
        obtain ⟨covered, then_, else_⟩ := fits.branch
        refine reaches_branch agrees covered False.elim fun m' same => ?_
        split <;> rename_i held
        · refine (ih k (Nat.lt_succ_self k) then_ same).mono ?_
          rintro outcome m'' ⟨τ, run, same'⟩
          exact ⟨τ, .branchTrue held run, same'⟩
        · refine (ih k (Nat.lt_succ_self k) else_ same).mono ?_
          rintro outcome m'' ⟨τ, run, same'⟩
          exact ⟨τ, .branchFalse (by simpa using held) run, same'⟩
      | .command (.loop test body) =>
        obtain ⟨covered, body_fits⟩ := fits.loop
        cases k with
        | zero => exact reaches_loop_one id
        | succ k =>
          refine reaches_loop agrees covered False.elim
            (fun made m' same => ⟨σ, .loopEnd made, same⟩)
            (fun _ m' same => ih k (by omega) body_fits same) ?_ ?_
          · rintro made m' ⟨τ, run, same⟩
            exact ⟨τ, .loopExit made run, same⟩
          · rintro made outcome m' ⟨τ, run, same⟩ on
            refine (ih (k + 1) (by omega) fits same).mono ?_
            rintro outcome m'' ⟨υ, again, same'⟩
            cases again.loop_next
            exact ⟨υ, .loopAgain made run on again, same'⟩
      | .command (.count index lower upper body) =>
        obtain ⟨overs, rounds⟩ := fits.count
        refine reaches_count agrees overs False.elim fun m' same => ?_
        refine (ih k (Nat.lt_succ_self k) (rounds _ _) same).mono ?_
        rintro outcome m'' ⟨τ, run, same'⟩
        cases run.rounds_next
        exact ⟨τ, .count run, same'⟩
      | .command (.jump target test) =>
        obtain ⟨visible, -⟩ := fits
        rw [Command.isScoped, and_eq_true] at visible
        refine reaches_jump agrees visible.2 False.elim fun m' same => ?_
        split <;> rename_i made
        · exact ⟨σ, .jump made, same⟩
        · exact ⟨σ, .stay (by simpa using made), same⟩
      | .rounds index n 0 body => exact reaches_noRound False.elim ⟨σ, .roundsEnd, agrees⟩
      | .rounds index n (left + 1) body =>
        obtain ⟨fresh, own, inner⟩ := fits
        have body_fits : (Task.sequence body).Fits names vars (index :: indices) true := inner
        refine reaches_round agrees own fresh (fun m' same =>
          ih k (Nat.lt_succ_self k) body_fits (same.narrow (subset_inner index))) ?_ ?_
        · rintro m' ⟨τ, run, same⟩
          exact ⟨τ, .roundsExit run, same.narrow (inner_subset index)⟩
        · rintro outcome m' ⟨τ, run, same⟩ on
          have rest : (Task.rounds index (n + 1) left body).Fits names vars indices inLoop :=
            ⟨fresh, own, inner⟩
          refine (ih k (Nat.lt_succ_self k) rest (same.narrow (inner_subset index))).mono ?_
          rintro outcome m'' ⟨υ, again, same'⟩
          cases again.rounds_next
          exact ⟨υ, .roundsAgain run on again, same'⟩

/-- Runs with enough steps come to an outcome and a state. -/
def Attains (names given scope : List String) (task : Task) (σ : State) (outcome : Outcome)
    (τ : State) : Prop :=
  ∃ enough, ∀ {site : Site names given} steps m, Agrees site scope σ m →
    Reaches (enough ≤ steps) (task.run site.place steps m)
      fun reached m' => reached = outcome ∧ Agrees site scope τ m'

lemma attains_of_succ (enough : Nat) (run : ∀ {site : Site names given} k m, Agrees site scope σ m →
      Reaches (enough ≤ k) (task.run site.place (k + 1) m)
        fun reached m' => reached = outcome ∧ Agrees site scope τ m') :
    Attains names given scope task σ outcome τ := by
  refine ⟨enough + 1, fun steps m agrees => ?_⟩
  cases steps with
  | zero => exact reaches_zero task (Nat.not_succ_le_zero enough)
  | succ k => exact (run k m agrees).fewer Nat.le_of_succ_le_succ

lemma attains_loop (enough : Nat)
    (run : ∀ {site : Site names given} k m, Agrees site scope σ m →
      Reaches (enough ≤ k) ((Task.command (.loop test body)).run site.place (k + 2) m)
        fun reached m' => reached = outcome ∧ Agrees site scope τ m') :
    Attains names given scope (.command (.loop test body)) σ outcome τ := by
  refine attains_of_succ (enough + 1) fun k m agrees => ?_
  cases k with
  | zero => exact reaches_loop_one (Nat.not_succ_le_zero enough)
  | succ k => exact (run k m agrees).fewer Nat.le_of_succ_le_succ

lemma attains_derived (derived : Exec task σ outcome τ)
    (fits : task.Fits names vars indices inLoop) :
    Attains names given (vars ++ indices) task σ outcome τ := by
  induction derived generalizing indices inLoop with
  | nil => exact ⟨1, fun steps m agrees => reaches_nil id ⟨rfl, agrees⟩⟩
  | cons first rest ih1 ih2 =>
    obtain ⟨head, tail⟩ := fits.cons
    obtain ⟨n1, run1⟩ := ih1 head
    obtain ⟨n2, run2⟩ := ih2 tail
    refine attains_of_succ (max n1 n2) fun k m agrees => ?_
    refine reaches_cons ((run1 k m agrees).fewer (by omega)) ?_ ?_
    · rintro m' ⟨-, same⟩
      exact (run2 k m' same).fewer (by omega)
    · rintro target m' ⟨⟨⟩, -⟩
  | leave first ih =>
    obtain ⟨n, run⟩ := ih fits.cons.1
    refine attains_of_succ n fun k m agrees => ?_
    refine reaches_cons (run k m agrees) ?_ fun target m' same => same
    rintro m' ⟨⟨⟩, -⟩
  | @assign name e σ =>
    obtain ⟨visible, -⟩ := fits
    rw [Command.isScoped, and_eq_true, contains_eq_mem, decide_eq_true_eq] at visible
    exact attains_of_succ e.cost fun k m agrees =>
      reaches_assign agrees (mem_append_left _ visible.1) visible.2 id fun m' same => ⟨rfl, same⟩
  | null => exact attains_of_succ 0 fun k m agrees => ⟨.next, rfl, rfl, agrees⟩
  | @branchTrue body σ outcome τ c orelse test run ih =>
    obtain ⟨covered, then_, -⟩ := fits.branch
    obtain ⟨n, run⟩ := ih then_
    refine attains_of_succ (max n c.cost) fun k m agrees => ?_
    refine reaches_branch agrees covered (by omega) fun m' same => ?_
    rw [if_pos test]
    exact (run k m' same).fewer (by omega)
  | @branchFalse orelse σ outcome τ c body test run ih =>
    obtain ⟨covered, -, else_⟩ := fits.branch
    obtain ⟨n, run⟩ := ih else_
    refine attains_of_succ (max n c.cost) fun k m agrees => ?_
    refine reaches_branch agrees covered (by omega) fun m' same => ?_
    rw [if_neg (by simp [test])]
    exact (run k m' same).fewer (by omega)
  | @jump σ c target test | @stay σ c target test =>
    obtain ⟨visible, -⟩ := fits
    rw [Command.isScoped, and_eq_true] at visible
    refine attains_of_succ (testCost c + 2) fun k m agrees => ?_
    exact reaches_jump agrees visible.2 id fun m' same => ⟨by simp [test], same⟩
  | @loopEnd σ c body test =>
    refine attains_loop (testCost c) fun k m agrees => ?_
    have never {p} (made : passes σ c = true) : p := by
      rw [test] at made
      cases made
    exact reaches_loop (P := fun _ _ => True) agrees fits.loop.1 id
      (fun _ m' same => ⟨rfl, same⟩) never never never
  | @loopExit σ c body τ test run ih =>
    obtain ⟨covered, body_fits⟩ := fits.loop
    obtain ⟨n, run⟩ := ih body_fits
    refine attains_loop (max (testCost c) n) fun k m agrees => ?_
    refine reaches_loop agrees covered (by omega) (by simp [test])
      (fun _ m' same => (run k m' same).fewer (by omega)) ?_ ?_
    · grind
    · grind
  | @loopAgain σ c body outcome τ υ test run on again ih1 ih2 =>
    obtain ⟨covered, body_fits⟩ := fits.loop
    obtain ⟨n1, run1⟩ := ih1 body_fits
    obtain ⟨n2, run2⟩ := ih2 fits
    refine attains_loop (max (testCost c) (max n1 n2)) fun k m agrees => ?_
    refine reaches_loop agrees covered (by omega) (by simp [test])
      (fun _ m' same => (run1 k m' same).fewer (by omega)) ?_ ?_
    · grind
    · rintro - _ m' ⟨-, same⟩ -
      exact (run2 (k + 1) m' same).fewer (by omega)
  | @count i body σ τ lower upper run ih =>
    obtain ⟨overs, rounds⟩ := fits.count
    obtain ⟨n, run⟩ := ih (rounds _ _)
    refine attains_of_succ (max n (max lower.cost upper.cost + 3)) fun k m agrees => ?_
    exact reaches_count agrees overs (by omega) fun m' same => (run k m' same).fewer (by omega)
  | @roundsEnd i n body σ =>
    exact attains_of_succ 0 fun k m agrees => reaches_noRound (by omega) ⟨rfl, agrees⟩
  | @roundsExit body τ i n k σ run ih =>
    obtain ⟨fresh, own, inner⟩ := fits
    have body_fits : (Task.sequence body).Fits names vars (i :: indices) true := inner
    obtain ⟨n, run⟩ := ih body_fits
    refine attains_of_succ n fun k m agrees => ?_
    refine reaches_round agrees own fresh
      (fun m' same => run k m' (same.narrow (subset_inner i))) ?_ ?_
    · rintro m' ⟨-, same⟩
      exact ⟨rfl, same.narrow (inner_subset i)⟩
    · grind
  | @roundsAgain body outcome τ i n k υ σ run on again ih1 ih2 =>
    obtain ⟨fresh, own, inner⟩ := fits
    have body_fits : (Task.sequence body).Fits names vars (i :: indices) true := inner
    have rest_fits : (Task.rounds i (n + 1) k body).Fits names vars indices inLoop :=
      ⟨fresh, own, inner⟩
    obtain ⟨n1, run1⟩ := ih1 body_fits
    obtain ⟨n2, run2⟩ := ih2 rest_fits
    refine attains_of_succ (max n1 n2) fun k m agrees => ?_
    refine reaches_round agrees own fresh
      (fun m' same => (run1 k m' (same.narrow (subset_inner i))).fewer (by omega)) ?_ ?_
    · rintro m' ⟨rfl, -⟩
      exact absurd rfl on
    · rintro _ m' ⟨-, same⟩ -
      exact (run2 k m' (same.narrow (inner_subset i))).fewer (by omega)

end BlockScript.Core
