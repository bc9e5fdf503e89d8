import BlockScript.Proofs.Choices
import BlockScript.Proofs.RunEffects

/-!
How often a branch evaluates its selector. Each alternative is a comparison of its own with the
whole selector in it, so the selector is evaluated, and the routines in it are called, once for each
alternative that is tried.
-/

namespace BlockScript

open Target

/-- Whether an object is a frame that a call of a routine makes. -/
def Object.isFrameOf (f : Function) : Object → Bool
  | .frame made => made.own == f.parameters ++ boundInAll f.body && made.outer == f.outer
  | _ => false

def Machine.callsOf (m : Machine) (f : Function) : Nat :=
  m.store.objects.countP (Object.isFrameOf f)

lemma Machine.Follows.callsOf_eq {m : Machine} (follows : m.Follows m') (f) :
    m'.callsOf f = m.callsOf f := by
  have same (o o' : Object) (outline : o'.outline = o.outline) :
      o'.isFrameOf f = o.isFrameOf f := by
    cases o <;> cases o' <;> first | rfl | cases outline
    rfl
  have old : (m'.store.objects.toList.take m.store.size).map (Object.isFrameOf f) =
      m.store.objects.toList.map (Object.isFrameOf f) := by
    refine List.ext_getElem? fun i => ?_
    rw [List.getElem?_map, List.getElem?_map, List.getElem?_take]
    by_cases small : i < m.store.size
    · have kept : Option.map Object.outline m'.store.objects[i]? =
          Option.map Object.outline m.store.objects[i]? := follows.old i small
      rw [if_pos small, Array.getElem?_toList, Array.getElem?_toList]
      revert kept
      cases m'.store.objects[i]? <;> cases m.store.objects[i]? <;> intro kept
      · rfl
      · cases kept
      · cases kept
      · exact congrArg some (same _ _ (Option.some.inj kept))
    · rw [if_neg small, Array.getElem?_toList, Array.getElem?_eq_none (Nat.le_of_not_lt small)]
  have new : (m'.store.objects.toList.drop m.store.size).countP (Object.isFrameOf f) = 0 := by
    rw [List.countP_eq_zero]
    intro o mem isFrame
    obtain ⟨i, found⟩ := List.mem_iff_getElem?.1 mem
    rw [List.getElem?_drop, Array.getElem?_toList] at found
    refine follows.new (m.store.size + i) o (Nat.le_add_right _ _) found ?_
    cases o <;> trivial
  have whole : m'.callsOf f = (m'.store.objects.toList.take m.store.size ++
      m'.store.objects.toList.drop m.store.size).countP (Object.isFrameOf f) := by
    rw [List.take_append_drop, Array.countP_toList]
    rfl
  rw [whole, List.countP_append, new, Nat.add_zero, ← Function.id_comp (Object.isFrameOf f),
    ← List.countP_map, old, List.countP_map, Function.id_comp, Array.countP_toList]
  rfl

namespace Run

open Eval

/-- Branches that try the value of a selector against others, each inside the one before it. -/
def branches (selector : Expr) : List (Expr × List Stmt) → List Stmt → List Stmt
  | [], orelse => orelse
  | (value, body) :: rest, orelse =>
    [.branch (compareWith selector .eq value) body (branches selector rest orelse)]

/-- A test of a selector against a value evaluates the selector first and the value at most once. -/
structure Tries (place : Place) (steps : Nat) (selector value : Expr) (m m₁ : Machine)
    (isMatch : Bool) (m₂ : Machine) : Prop where
  tested : (evaluate place steps (compareWith selector .eq value) >>= truth) m = .ok isMatch m₂
  selected : ∃ k v, evaluate place k selector m = .ok v m₁
  valued : m₁.Follows m₂ ∨ ∃ k w m' m'', m₁.Follows m' ∧ evaluate place k value m' = .ok w m'' ∧
    m''.Follows m₂

/-- The tests of branches up to the one that is taken, with the machines before and after each
evaluation of the selector. -/
inductive Selects (place : Place) (selector : Expr) (orelse : List Stmt) :
    Nat → List (Expr × List Stmt) → Machine → List (Machine × Machine) → List Stmt → Nat →
      Machine → Prop where
  | none : Selects place selector orelse steps [] m [] orelse steps m
  | hit (tries : Tries place steps selector value m m₁ true m₂) :
      Selects place selector orelse (steps + 2) ((value, body) :: rest) m [(m, m₁)] body steps m₂
  | miss (tries : Tries place steps selector value m m₁ false m₂)
      (later : Selects place selector orelse steps rest m₂ evaluations chosen left m') :
      Selects place selector orelse (steps + 2) ((value, body) :: rest) m ((m, m₁) :: evaluations)
        chosen left m'

variable {alternatives : List (Expr × List Stmt)}

lemma executeAll_single (s) : executeAll place (steps + 1) [s] m = execute place steps s m := by
  obtain _ | steps := steps
  · rfl
  change (execute place (steps + 1) s >>= fun flow => _) m = _
  cases ran : execute place (steps + 1) s m with
  | error stop m' => rw [bind_error ran]
  | ok flow m' =>
    rw [bind_ok ran]
    cases flow <;> rfl

lemma execute_tested {body : List Stmt}
    (tested : (evaluate place steps test >>= truth) m = .ok isMatch m₂) :
    execute place (steps + 1) (.branch test body orelse) m =
      executeAll place steps (if isMatch then body else orelse) m₂ := by
  change (evaluate place steps test >>= fun v => truth v >>= _) m = _
  rw [← bind_assoc, bind_ok tested]
  cases isMatch <;> rfl

lemma tries_of_tested
    (tested : (evaluate place steps (compareWith selector .eq value) >>= truth) m =
      .ok isMatch m₂) : ∃ m₁, Tries place steps selector value m m₁ isMatch m₂ := by
  obtain ⟨result, m3, compared, decided⟩ := ok_of_bind tested
  have asked := ((keeps_truth (R := Machine.Follows) result m3).ok decided).1
  obtain _ | steps := steps
  · cases compared
  unfold compareWith at compared
  split at compared
  case _ a first b =>
    obtain ⟨x, n1, left, compared⟩ := ok_of_bind compared
    obtain ⟨y, n2, right, compared⟩ := ok_of_bind compared
    obtain ⟨z, n3, made, compared⟩ := ok_of_bind compared
    obtain ⟨isTrue, n4, held, compared⟩ := ok_of_bind compared
    have selected : evaluate place (steps + 1) (.compare a first b) m = .ok z n3 := by
      exact (bind_ok left).trans ((bind_ok right).trans made)
    have kept := ((keeps_truth (R := Machine.Follows) z n3).ok held).1
    refine ⟨n3, tested, ⟨_, _, selected⟩, ?_⟩
    cases isTrue with
    | false =>
      cases compared
      exact .inl (kept.trans asked)
    | true =>
      obtain ⟨w, n5, valued, compared⟩ := ok_of_bind compared
      have behind := ((gives_compare (R := Machine.Follows) .eq y w).keeps n5).ok compared |>.1
      exact .inr ⟨_, w, _, _, kept, valued, behind.trans asked⟩
  case _ =>
    obtain ⟨v, n1, selected, compared⟩ := ok_of_bind compared
    obtain ⟨w, n2, valued, compared⟩ := ok_of_bind compared
    have behind := ((gives_compare (R := Machine.Follows) .eq v w).keeps n2).ok compared |>.1
    exact ⟨n1, tested, ⟨_, _, selected⟩, .inr ⟨_, w, _, _, .refl _, valued, behind.trans asked⟩⟩

lemma Selects.run (selects : Selects place selector orelse steps alternatives m evals chosen
      left m') :
    executeAll place steps (branches selector alternatives orelse) m =
      executeAll place left chosen m' := by
  induction selects with
  | none => rfl
  | hit tries =>
    rw [branches, executeAll_single, execute_tested tries.tested]
    rfl
  | miss tries later ih =>
    rw [branches, executeAll_single, execute_tested tries.tested]
    exact ih

lemma selects_of_run
    (ran : executeAll place steps (branches selector alternatives orelse) m = .ok flow m') :
    ∃ evals chosen left m₂,
      Selects place selector orelse steps alternatives m evals chosen left m₂ := by
  induction alternatives generalizing steps m with
  | nil => exact ⟨_, _, _, _, .none⟩
  | cons alt rest ih =>
    obtain ⟨value, body⟩ := alt
    obtain _ | steps := steps
    · cases ran
    rw [branches, executeAll_single] at ran
    obtain _ | steps := steps
    · cases ran
    have made := ran
    obtain ⟨v, m₁, compared, made⟩ := ok_of_bind made
    obtain ⟨isMatch, m₂, decided, -⟩ := ok_of_bind made
    have tested : (evaluate place steps (compareWith selector .eq value) >>= truth) m =
        .ok isMatch m₂ := (bind_ok compared).trans decided
    obtain ⟨m₁, tries⟩ := tries_of_tested tested
    cases isMatch with
    | true => exact ⟨_, _, _, _, .hit tries⟩
    | false =>
      rw [execute_tested tested] at ran
      obtain ⟨evals, chosen, left, m3, later⟩ := ih ran
      exact ⟨_, _, _, _, .miss tries later⟩

lemma Selects.position (selects : Selects place selector orelse steps alternatives m evals
      chosen left m') :
    chosen = orelse ∧ evals.length = alternatives.length ∨
      ∃ i value, alternatives[i]? = some (value, chosen) ∧ evals.length = i + 1 := by
  induction selects with
  | none => exact .inl ⟨rfl, rfl⟩
  | hit tries => exact .inr ⟨0, _, rfl, rfl⟩
  | miss tries later ih =>
    rcases ih with ⟨isLast, all⟩ | ⟨i, value, found, many⟩
    · exact .inl ⟨isLast, congrArg (· + 1) all⟩
    · exact .inr ⟨i + 1, value, found, congrArg (· + 1) many⟩

/-- No value that the selector is compared with calls a routine. -/
def Quiet (place : Place) (f : Function) (alternatives : List (Expr × List Stmt)) : Prop :=
  ∀ a ∈ alternatives, ∀ k m v m', evaluate place k a.1 m = .ok v m' → m'.callsOf f = m.callsOf f

lemma Tries.callsOf_eq (tries : Tries place steps selector value m m₁ isMatch m₂)
    (quiet : ∀ k m v m', evaluate place k value m = .ok v m' → m'.callsOf f = m.callsOf f) :
    m₂.callsOf f = m₁.callsOf f := by
  rcases tries.valued with follows | ⟨k, w, m', m'', before, valued, behind⟩
  · exact follows.callsOf_eq f
  · rw [behind.callsOf_eq, quiet k m' w m'' valued, before.callsOf_eq]

lemma Selects.calls (selects : Selects place selector orelse steps alternatives m evals
      chosen left m') (quiet : Quiet place f alternatives)
    (calls : ∀ e ∈ evals, e.1.callsOf f < e.2.callsOf f) :
    m.callsOf f + evals.length ≤ m'.callsOf f := by
  induction selects with
  | none => exact Nat.le_refl _
  | hit tries =>
    rw [tries.callsOf_eq (quiet _ mem_cons_self)]
    exact calls _ mem_cons_self
  | miss tries later ih =>
    have first := calls _ mem_cons_self
    have rest := ih (fun a mem => quiet a (mem_cons_of_mem _ mem))
      fun e mem => calls e (mem_cons_of_mem _ mem)
    rw [tries.callsOf_eq (quiet _ mem_cons_self)] at rest
    rw [length_cons]
    dsimp only at first
    omega

lemma Selects.calls_once_iff (selects : Selects place selector orelse steps alternatives m
      evals chosen left m') (some : alternatives ≠ []) :
    ∃ m₁ later, evals = (m, m₁) :: later ∧ ∀ f, Quiet place f alternatives →
      (∀ e ∈ evals, e.1.callsOf f < e.2.callsOf f) →
        (m'.callsOf f = m₁.callsOf f ↔ later = []) := by
  cases selects with
  | none => exact absurd rfl some
  | hit tries => exact ⟨_, [], rfl, fun f quiet _ =>
      iff_of_true (tries.callsOf_eq (quiet _ mem_cons_self)) rfl⟩
  | miss tries later =>
    refine ⟨_, _, rfl, fun f quiet calls => ?_⟩
    have same := tries.callsOf_eq (quiet _ mem_cons_self)
    have more := later.calls (fun a mem => quiet a (mem_cons_of_mem _ mem))
      fun e mem => calls e (mem_cons_of_mem _ mem)
    constructor
    · intro once
      exact length_eq_zero_iff.1 (by omega)
    · rintro rfl
      cases later
      exact same

end Run

namespace Target

/-- What is written behind a branch, which need not be anything. -/
def toOrelse : List Draft → Option (List Stmt)
  | [] => some []
  | d :: ds => toBody .nothing (d :: ds)

lemma toStmts_branch (test body orelse) : toStmts (.branch test body orelse) = (do
      return [.branch (← toExpr test) (← toBody .nothing body) (← toOrelse orelse)]) := by
  cases orelse <;> simp [toStmts, toOrelse]

end Target

namespace Compile

/-- An alternative as it is written. -/
def IsWritten (q : Draft × List Draft) (a : Expr × List Stmt) : Prop :=
  toExpr q.1 = some a.1 ∧ toBody .nothing q.2 = some a.2

variable {source : String} {s s₁ s₂ s₃ : Scope} {t : Tree Token} {v : Draft}
  {es ds tests : List Draft} {ps : List (List Draft × List Draft)} {selector : Expr}
  {alternatives : List (Expr × List Stmt)}

lemma IsWritten.toStmts_eq (written : IsWritten q a) (own : toExpr v = some selector)
    (later : toOrelse ds = some orelse) :
    toStmts (.branch (compared (some v) q.1) q.2 ds) =
      some [.branch (Target.compareWith selector .eq a.1) a.2 orelse] := by
  rw [toStmts_branch, written.2, later]
  simp [compared, toExpr, own, written.1]

lemma toOrelse_chain (own : toExpr v = some selector) (last : toOrelse es = some orelse)
    (written : Forall₂ IsWritten qs alternatives) :
    toOrelse (chain (qs.map fun q => (compared (some v) q.1, q.2)) es) =
      some (Run.branches selector alternatives orelse) := by
  induction written with
  | nil => exact last
  | cons here rest ih =>
    rw [map_cons, chain, toOrelse, toBody, if_neg (by simp [isBare]), here.toStmts_eq own ih]
    rfl

/-- A branch with a selector evaluates it once for each alternative that it tries. So a routine that
the selector calls each time is called as often as in one evaluation if and only if no second
alternative is tried. -/
theorem selector_called_once_iff (c : Choice) {word : Token} (kind : c.kind = .simple word t)
    (free : c.isFree) (own : compile source t s = .ok ([v], s₁))
    (arms : CompileArms source c.arms s₁ ps s₂) (single : ps.map (·.1) = tests.map ([·]))
    (last : compileAll source (c.orelse.map (·.2)).toList s₂ = .ok (es, s₃))
    (ownWritten : toExpr v = some selector)
    (written : List.Forall₂ IsWritten (tests.zip (ps.map (·.2))) alternatives)
    (lastWritten : toOrelse es = some orelse) :
    ∃ d stmt, compile source c.tree s = .ok ([d], s₃) ∧ toStmts d = some [stmt] ∧
      ∀ place steps m,
        (∀ flow m', Run.execute place steps stmt m = .ok flow m' → ∃ evaluations chosen left m₂,
          Run.Selects place selector orelse (steps + 1) alternatives m evaluations chosen left
            m₂) ∧
        ∀ evaluations chosen left m₂, Run.Selects place selector orelse (steps + 1) alternatives m
            evaluations chosen left m₂ →
          Run.execute place steps stmt m = Run.executeAll place left chosen m₂ ∧
          (chosen = orelse ∧ evaluations.length = alternatives.length ∨
            ∃ i value, alternatives[i]? = some (value, chosen) ∧ evaluations.length = i + 1) ∧
          ∃ m₁ later, evaluations = (m, m₁) :: later ∧ ∀ f, Run.Quiet place f alternatives →
            (∀ e ∈ evaluations, e.1.callsOf f < e.2.callsOf f) →
              (m₂.callsOf f = m₁.callsOf f ↔ later = []) := by
  have selects : CompileSelector source c.selector s (some v) s₁ := by
    rw [Choice.selector, kind]
    exact .some own
  have compiled := (choice_chain_iff c free selects arms last).1 tests single
  rw [List.zip_map_left] at compiled
  change CompileArms source (c.first :: c.rest) s₁ ps s₂ at arms
  obtain _ | ⟨-, -, -⟩ := arms
  cases tests with
  | nil => cases single
  | cons test tests =>
    cases written with
    | @cons _ a _ alternatives here rest =>
      refine ⟨_, _, compiled, here.toStmts_eq ownWritten (toOrelse_chain ownWritten lastWritten rest),
        fun place steps m => ⟨fun flow m' ran => ?_, fun evaluations chosen left m₂ selects => ?_⟩⟩
      · rw [← Run.executeAll_single] at ran
        exact Run.selects_of_run ran
      · have run := selects.run
        rw [Run.branches, Run.executeAll_single] at run
        exact ⟨run, selects.position, selects.calls_once_iff (cons_ne_nil _ _)⟩

open Core

/-- `case f when 1 then null; when 2 then exit; end case` -/
def calledChoice : Choice :=
  ⟨.simple ⟨.CASE, "case", {}, 0, 0⟩ (climb sideRungs (referenceTree "f")),
    armOf (numeralTree "1") nullTree, [armOf (numeralTree "2") exitTree], none,
    [⟨.END, "end", {}, 0, 0⟩, ⟨.CASE, "case", {}, 0, 0⟩]⟩

def calledRoutine (n : Nat) : Function where
  name := "F"
  parameters := []
  isStatic := false
  body := [.returnValue (some (Arith.number n).target)]
  outer := none

def calledMachine (n : Nat) : Machine where
  store := ⟨#[.function (calledRoutine n)]⟩
  globals := ("F", .object 0) :: (Library.exports? "PLHELPER").getD []

def calledAlternatives : List (Expr × List Stmt) :=
  [((Arith.number 1).target, [.pass]), ((Arith.number 2).target, [.breakLoop])]

def calledTests : List Draft := [(Arith.number 1).draft, (Arith.number 2).draft]

def calledBodies : List (List Draft) := [[.expr .pass], [.expr .breakLoop]]

lemma calledArms_compiled : let s := ({} : Scope).declare "F"
    compile "" (climb sideRungs (referenceTree "f")) s = .ok ([.call (.ident "F") []], s) ∧
      CompileArms "" calledChoice.arms s ((calledTests.map ([·])).zip calledBodies) s := by
  intro s
  obtain ⟨one, two⟩ := compile_one_two s
  refine ⟨?_, .cons one rfl (.cons two rfl .nil)⟩
  with_unfolding_all rfl

theorem first_alternative_taken :
    let s := ({} : Scope).declare "F"
    ∃ d stmt m, compile "" calledChoice.tree s = .ok ([d], s) ∧ toStmts d = some [stmt] ∧
      Run.execute {} 12 stmt (calledMachine 1) = Run.executeAll {} 11 [.pass] m := by
  intro s
  obtain ⟨own, arms⟩ := calledArms_compiled
  have single : ((calledTests.map ([·])).zip calledBodies).map (·.1) = calledTests.map ([·]) := rfl
  have written : List.Forall₂ IsWritten (calledTests.zip calledBodies) calledAlternatives :=
    .cons ⟨rfl, rfl⟩ (.cons ⟨rfl, rfl⟩ .nil)
  obtain ⟨d, stmt, compiled, line, runs⟩ := selector_called_once_iff calledChoice rfl (by decide) own
    arms single rfl rfl written rfl
  obtain ⟨m₁, tries⟩ : ∃ m₁, Run.Tries {} 11 (.call (.name "F") []) (Arith.number 1).target
      (calledMachine 1) m₁ true _ := Run.tries_of_tested rfl
  exact ⟨d, stmt, _, compiled, line, ((runs {} 12 (calledMachine 1)).2 _ _ _ _ (.hit tries)).1⟩

/-- The second alternative is taken after two calls, though one evaluation of the selector makes one
call. -/
theorem selector_called_twice :
    let s := ({} : Scope).declare "F"
    ∃ d stmt, compile "" calledChoice.tree s = .ok ([d], s) ∧ toStmts d = some [stmt] ∧
      ((Run.execute {} 12 stmt).after (calledMachine 2)).callsOf (calledRoutine 2) = 2 ∧
      ((Run.evaluate {} 10 (.call (.name "F") [])).after (calledMachine 2)).callsOf
        (calledRoutine 2) = 1 := by
  intro s
  obtain ⟨own, arms⟩ := calledArms_compiled
  exact ⟨_, _, (choice_chain_iff calledChoice (by decide) (.some own) arms rfl).1 calledTests rfl,
    rfl, by decide +kernel, by decide +kernel⟩

end Compile
end BlockScript
