import BlockScript.Proofs.Binding
import BlockScript.Proofs.LoopBodies
import BlockScript.Proofs.Visits

/-!
Loops over the numbers between two bounds. The bounds are evaluated once, and the body runs once for
each number, with a new cell for it each time. The numbers always go up, also if the loop is written
to count down.
-/

namespace BlockScript

namespace Run

open Target Eval

/-- Runs a body once for each of some numbers, each time with a new cell for the number. -/
def visit (place : Place) (index : String) (body : List Stmt) : Nat → List Int → Eval Flow
  | 0, _ => throw .exhausted
  | _, [] => return .next
  | steps + 1, n :: later => do
    bindName place index (← new (.cell (.int n)))
    match ← executeAll place steps body with
    | .next | .continued => visit place index body steps later
    | .broke => return .next
    | flow => return flow

/-- The numbers between two bounds, in the order that a loop over them states. -/
def between (isReverse : Bool) (lo hi : Int) : List Int :=
  (List.range (hi + 1 - lo).toNat).map fun k : Nat => if isReverse then hi - k else lo + k

variable {body : List Stmt}

lemma between_up_iff :
    between isReverse lo hi = between false lo hi ↔ isReverse = false ∨ hi ≤ lo := by
  cases isReverse with
  | false => simp
  | true =>
    simp only [between]
    cases size : (hi + 1 - lo).toNat with
    | zero => exact iff_of_true rfl (by omega)
    | succ k =>
      -- the first number is the upper bound in the one list and the lower bound in the other
      rw [List.range_succ_eq_map]
      constructor
      · grind
      · grind

lemma repeatOver_eq (place steps) (index : String) (n : Int) (count : Nat)
    (body : List Stmt) :
    repeatOver place steps index n count body =
      visit place index body steps ((List.range count).map fun k : Nat => n + k) := by
  induction steps generalizing n count with
  | zero => cases count <;> rfl
  | succ steps ih =>
    cases count with
    | zero => rfl
    | succ count =>
      have shift : (fun k : Nat => n + (k : Int)) ∘ Nat.succ = fun k : Nat => n + 1 + (k : Int) := by grind
      rw [List.range_succ_eq_map, map_cons, List.map_map, shift, repeatOver, visit]
      simp only [ih, Nat.cast_zero, Int.add_zero]
      rfl

lemma rangeBounds_contents (lower : m.content v = .int lo) (upper : m.content w = .int hi) :
    Library.rangeBounds v w m = .ok (lo, hi + 1) m := by
  rw [Library.rangeBounds, bind_ok (unwrap_eq v m), bind_ok (unwrap_eq w m), lower, upper]
  rfl

lemma execute_counting (known : lookUp place "mrange" m = .ok (.routine .range) m)
    (bounds : evaluateAll place steps [low, high] m = .ok [v, w] m1)
    (lower : m1.content v = .int lo) (upper : m1.content w = .int hi) :
    execute place (steps + 2) (.forLoop index (.call (.name "mrange") [low, high]) body) m =
      visit place index body (steps + 1) (between false lo hi) m1 := by
  obtain _ | steps := steps
  · cases bounds
  have range : evaluate place (steps + 2) (.call (.name "mrange") [low, high]) m =
      .ok (.range v w) m1 := by
    have helper : evaluate place (steps + 1) (.name "mrange") m = .ok (.routine .range) m := known
    exact (bind_ok helper).trans (bind_ok bounds)
  refine (bind_ok range).trans ?_
  dsimp only
  rw [bind_ok (rangeBounds_contents lower upper), repeatOver_eq]
  rfl

end Run

namespace Compile

inductive IsRange (isReverse : Bool) (index : String) (lower upper : List (Tree Token)) :
    List (Tree Token) → Prop where
  | mk (id : IsIdentifier t) (named : t.capitals = index) (word : IsLeaf .IN i)
      (direction : IsDirection isReverse ds) (dots : IsLeaf .DOUBLE_PERIOD p) :
      IsRange isReverse index lower upper
        (.node .indexName [t] :: i :: (ds ++ [.node .lowerBound lower, p, .node .upperBound upper]))

open Target

variable {source index : String} {s s₁ s₂ s₃ : Scope} {isReverse : Bool} {t w : Tree Token}
  {ts lower upper statements : List (Tree Token)} {a b : Draft} {es : List Draft} {low high : Expr}
  {body : List Stmt}

lemma IsRange.compiled (range : IsRange isReverse index lower upper ts)
    (first : compile source (.node .lowerBound lower) (s.declare index) = .ok ([a], s₁))
    (last : compile source (.node .upperBound upper) s₁ = .ok ([b], s₂)) :
    compile source (.node .cursorLoopParam ts) s =
      .ok ([.forLoop (.name (.ident index)) (.call (.ident "mrange") [a, b]) []], s₂) := by
  obtain ⟨id, rfl, word, direction, dots⟩ := range
  exact compile_bounds (compile_identifier id) word direction dots first last

lemma IsLoop.counting_compiled
    (loop : IsLoop .absent .absent .counting [w, .node .cursorLoopParam ts] t statements)
    (nonempty : statements ≠ [])
    (header : compile source (.node .cursorLoopParam ts) s = .ok ([.forLoop target range []], s₁))
    (run : compileAll source statements s₁ = .ok (es, s₂)) :
    compile source t s = .ok ([.forLoop target range es], s₂) := by
  obtain ⟨children, rfl⟩ : ∃ children, t = .node .loopStatement children := by
    cases loop
    exact ⟨_, rfl⟩
  have heads : compileAll source [w, .node .cursorLoopParam ts] s =
      .ok ([.forLoop target range []], s₁) := by
    cases loop with
    | mk _ heads =>
      cases heads with
      | counting word =>
        rw [word.skip]
        exact compileAll_single header
  obtain ⟨os, cs, drafts, got⟩ := loop.collected nonempty heads run
  obtain rfl : os = [] := length_eq_zero_iff.1 drafts.opens.1
  obtain rfl : cs = [] := length_eq_zero_iff.1 drafts.closes.1
  rw [compile_loop_iff got, Compile.loop, loop.words.1, loop.words.2.1, loop.words.2.2]
  simp [first, withBody, bind, Except.bind, pure, Except.pure]

/-- A loop over the numbers between two bounds evaluates the bounds once and visits the numbers
upwards, each in a new cell. That is the order it states if and only if it is not written to count
down or there are not two numbers to visit. -/
theorem counting_loop_ascends
    (loop : IsLoop .absent .absent .counting [w, .node .cursorLoopParam ts] t statements)
    (nonempty : statements ≠ []) (range : IsRange isReverse index lower upper ts)
    (named : isIdentifier index = true)
    (first : compile source (.node .lowerBound lower) (s.declare index) = .ok ([a], s₁))
    (last : compile source (.node .upperBound upper) s₁ = .ok ([b], s₂))
    (run : compileAll source statements s₂ = .ok (es, s₃))
    (writtenLow : toExpr a = some low) (writtenHigh : toExpr b = some high)
    (statement : toBody .nothing es = some body) :
    ∃ d, compile source t s = .ok ([d], s₃) ∧
      toStmts d = some [.forLoop index (.call (.name "mrange") [low, high]) body] ∧
      ∀ place steps m m₁ v w lo hi, Run.lookUp place "mrange" m = .ok (.routine .range) m →
        Run.evaluateAll place steps [low, high] m = .ok [v, w] m₁ →
        m₁.content v = .int lo → m₁.content w = .int hi →
        Run.execute place (steps + 2)
            (.forLoop index (.call (.name "mrange") [low, high]) body) m =
          Run.visit place index body (steps + 1) (Run.between false lo hi) m₁ ∧
        (Run.between false lo hi = Run.between isReverse lo hi ↔ isReverse = false ∨ hi ≤ lo) := by
  refine ⟨_, loop.counting_compiled nonempty (range.compiled first last) run, ?_, ?_⟩
  · have target : identifier? (.name (.ident index)) = some index := by
      simp [identifier?, Draft.ident, label?, named]
    have helper : toExpr (.ident "mrange") = some (.name "mrange") := rfl
    simp [toStmts, target, toExpr, toExprs, helper, writtenLow, writtenHigh, statement]
  · intro place steps m m₁ v w lo hi known bounds lower upper
    refine ⟨Run.execute_counting known bounds lower upper, ?_⟩
    rw [eq_comm, Run.between_up_iff]

open Core

def boundTree (kind : Nonterminal) (digits : String) : Tree Token :=
  climb (kind :: operandRungs ++ [.constant]) (.node .numeric [leafOf .UNSIGNED_INTEGER digits])

def countdownRange : List (Tree Token) :=
  .node .indexName [.node .identifier [.node .idExpression [nameTree "i"]]] :: leafOf .IN "in" ::
    ([leafOf .REVERSE "reverse"] ++
      [boundTree .lowerBound "1", leafOf .DOUBLE_PERIOD "..", boundTree .upperBound "3"])

/-- `for i in reverse 1..3 loop exit; end loop` -/
def countdownTree : Tree Token :=
  .node .loopStatement ([] ++ ([leafOf .FOR "for", .node .cursorLoopParam countdownRange] ++
    leafOf .LOOP "loop" :: .node .seqOfStatements [exitTree, semicolonTree] ::
      leafOf .END "end" :: leafOf .LOOP "loop" :: []))

def countingMachine : Machine := { globals := (Library.exports? "PLHELPER").getD [] }

def countdownDraft : Draft :=
  .forLoop (.name (.ident "I"))
    (.call (.ident "mrange") [(Arith.number 1).draft, (Arith.number 3).draft]) [.expr .breakLoop]

def countdownStmt : Stmt :=
  .forLoop "I" (.call (.name "mrange") [(Arith.number 1).target, (Arith.number 3).target])
    [.breakLoop]

theorem countdown_ascends :
    ∃ d, compile "" countdownTree {} = .ok ([d], ({} : Scope).declare "I") ∧
      toStmts d = some [countdownStmt] ∧
      Run.execute {} 8 countdownStmt countingMachine = Run.visit {} "I" [.breakLoop] 7 [1, 2, 3]
        ((countingMachine.push (.cell (.int 1))).push (.cell (.int 3))) := by
  have loop : IsLoop .absent .absent .counting _ countdownTree [exitTree] :=
    .mk .absent (.counting ⟨_, rfl⟩) ⟨_, rfl⟩ (.cons ⟨_, rfl⟩ .nil) ⟨_, rfl⟩ ⟨_, rfl⟩ .absent
  have range : IsRange true "I" _ _ countdownRange :=
    .mk ⟨_, rfl⟩ (by decide +kernel) ⟨_, rfl⟩ (.down ⟨_, rfl⟩) ⟨_, rfl⟩
  have one (s) : compile "" (boundTree .lowerBound "1") s =
      .ok ([(Arith.number 1).draft], s) := by
    with_unfolding_all rfl
  have three (s) : compile "" (boundTree .upperBound "3") s =
      .ok ([(Arith.number 3).draft], s) := by
    with_unfolding_all rfl
  obtain ⟨d, compiled, written, runs⟩ := counting_loop_ascends loop (cons_ne_nil _ _) range
    (by decide) (one _) (three _) rfl rfl rfl rfl
  exact ⟨d, compiled, written,
    (runs {} 6 countingMachine _ (.object 1) (.object 2) 1 3 rfl rfl rfl rfl).1⟩

/-- A loop that is to begin with 3 begins with 1. -/
theorem countdown_begins_low :
    compile "" countdownTree {} = .ok ([countdownDraft], ({} : Scope).declare "I") ∧
      toStmts countdownDraft = some [countdownStmt] ∧ (Run.between true 1 3).head? = some 3 ∧
      ∃ m, Run.execute {} 8 countdownStmt countingMachine = .ok .next m ∧
        (m.globals.get? "I").map m.content = some (.int 1) := by
  refine ⟨?_, rfl, rfl, _, rfl, ?_⟩
  · with_unfolding_all rfl
  · rfl

end Compile
end BlockScript
