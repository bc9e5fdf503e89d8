import BlockScript.Proofs.Core.Statements
import BlockScript.Proofs.Enclosure

/-!
Blocks among the statements of other constructs. A statement keeps one draft of what stands in it.
-/

namespace BlockScript

def Draft.opened : Draft → List Draft
  | .guard body _ => body
  | d => [d]

namespace Compile

inductive IsSequence : List (Tree Token) → List (Tree Token) → Prop where
  | nil : IsSequence [] []
  | cons (semicolon : IsLeaf .SEMICOLON t) (rest : IsSequence ts statements) :
      IsSequence (.node .statement us :: t :: ts) (.node .statement us :: statements)

inductive IsGuard : List (Tree Token) → List (Tree Token) → Prop where
  | none : IsGuard [] []
  | some (word : IsLeaf .EXCEPTION t)
      (phrases : ∀ h ∈ handlers, ∃ us, h = .node .exceptionHandler us) (some : handlers ≠ []) :
      IsGuard (t :: handlers) handlers

inductive IsClosing : List (Tree Token) → Prop where
  | none : IsClosing []
  | label : IsClosing [.node .labelName [.node .idExpression [.node .regularId name]]]

inductive IsBody : Tree Token → List (Tree Token) → List (Tree Token) → Prop where
  | mk (begins : IsLeaf .BEGIN b) (sequence : IsSequence ts statements)
      (guard : IsGuard gs handlers) (ends : IsLeaf .END e) (closing : IsClosing ls) :
      IsBody (.node .body (b :: .node .seqOfStatements ts :: (gs ++ e :: ls))) statements handlers

inductive IsBlock : Tree Token → List (Tree Token) → List (Tree Token) → List (Tree Token) → Prop
    where
  | bare (body : IsBody t statements handlers) : IsBlock t [] statements handlers
  | declaring (words : ∀ w ∈ ws, IsLeaf .DECLARE w)
      (phrases : ∀ d ∈ declarations, ∃ us, d = .node .declareSpec us)
      (body : IsBody t statements handlers) :
      IsBlock (.node .block (ws ++ declarations ++ [t])) declarations statements handlers

section

variable {source : String} {s s' : Scope}

lemma compileAll_congr (same : ∀ s, compileAll source ts s = compileAll source us s) :
    compileAll source (t :: ts) s = compileAll source (t :: us) s := by
  have both : compileAll source ts = compileAll source us := funext same
  rw [compileAll, compileAll, both]

lemma IsSequence.compiled (seq : IsSequence ts statements) (s) :
    compileAll source ts s = compileAll source statements s := by
  induction seq generalizing s with
  | nil => rfl
  | cons semi _ ih =>
    refine compileAll_congr fun s => ?_
    rw [semi.skip]
    exact ih s

lemma IsSequence.exprs (seq : IsSequence ts statements)
    (comp : compileAll source statements s = .ok (es, s')) :
    es.length = statements.length ∧ ∀ e ∈ es, ∃ p, e = .expr p := by
  induction seq generalizing s es with
  | nil => simp_all
  | cons _ _ ih =>
    obtain ⟨own, later, s1, here, rest, rfl⟩ := compileAll_cons_inv comp
    obtain ⟨p, -, -, rfl⟩ := statement_inv here
    obtain ⟨same, all⟩ := ih rest
    exact ⟨by simp [same], forall_mem_cons.2 ⟨⟨p, rfl⟩, all⟩⟩

lemma handlers_drafted (phrases : ∀ h ∈ handlers, ∃ us, h = .node .exceptionHandler us)
    (comp : compileAll source handlers s = .ok (hs, s')) :
    hs.length = handlers.length ∧ ∀ h ∈ hs, h.isHandler = true := by
  induction handlers generalizing s hs with
  | nil => simp_all
  | cons t handlers ih =>
    obtain ⟨⟨us, rfl⟩, others⟩ := forall_mem_cons.1 phrases
    obtain ⟨own, later, s1, here, rest, rfl⟩ := compileAll_cons_inv comp
    obtain ⟨parts, s2, -, whole⟩ := parts_of_compile here
    obtain ⟨d, made, rfl⟩ := single_inv whole
    obtain ⟨split, -, is⟩ := steps_of_bind made
    cases is
    obtain ⟨same, all⟩ := ih others rest
    exact ⟨by simp [same], forall_mem_cons.2 ⟨rfl, all⟩⟩

lemma IsGuard.drafted (guard : IsGuard ts handlers) (comp : compileAll source ts s = .ok (hs, s')) :
    compileAll source handlers s = .ok (hs, s') ∧ hs.length = handlers.length ∧
      ∀ h ∈ hs, h.isHandler = true := by
  cases guard with
  | none => exact ⟨comp, handlers_drafted (by simp) comp⟩
  | some word phrases some =>
    rw [word.skip] at comp
    exact ⟨comp, handlers_drafted phrases comp⟩

lemma IsClosing.drafted (closing : IsClosing ts) (comp : compileAll source ts s = .ok (ds, s')) :
    s' = s ∧ (ds = [] ∨ ∃ name, ds = [.ident name]) := by
  cases closing with
  | none => simp_all
  | label =>
    cases compile_label.symm.trans (compileAll_single_inv comp)
    exact ⟨rfl, .inr ⟨_, rfl⟩⟩

def guarded (es hs : List Draft) : List Draft := if hs.isEmpty then es else [.guard es hs]

lemma unnamed_exprs (exprs : ∀ e ∈ es, ∃ p, e = .expr p)
    (closing : ds = [] ∨ ∃ name, ds = [.ident name]) : unnamed (es ++ ds) = es := by
  rcases closing with rfl | ⟨name, rfl⟩
  · rw [append_nil]
    unfold unnamed
    split
    case _ id last =>
      obtain ⟨p, is⟩ := exprs _ (List.mem_of_getLast? last)
      cases is
    · rfl
  · simp [unnamed, Draft.ident]

lemma body_guarded (exprs : ∀ e ∈ es, ∃ p, e = .expr p) (areHandlers : ∀ h ∈ hs, h.isHandler)
    (closing : ds = [] ∨ ∃ name, ds = [.ident name]) :
    Compile.body (es ++ (hs ++ ds)) = guarded es hs := by
  have noHandler : ∀ d ∈ es ++ ds, d.isHandler = false := by
    intro d mem
    rcases mem_append.1 mem with inside | last
    · obtain ⟨p, rfl⟩ := exprs d inside
      rfl
    · rcases closing with rfl | ⟨name, rfl⟩
      · cases last
      · cases mem_singleton.1 last
        rfl
  have split := forall_mem_append.1 noHandler
  have kept : (es ++ (hs ++ ds)).filter Draft.isHandler = hs := by
    rw [filter_append, filter_append, filter_eq_self.2 areHandlers,
      filter_eq_nil_iff.2 (by simpa using split.1),
      filter_eq_nil_iff.2 (by simpa using split.2), nil_append, append_nil]
  have rest : (es ++ (hs ++ ds)).filter (!·.isHandler) = es ++ ds := by
    rw [filter_append, filter_append, filter_eq_self.2 (by simpa using split.1),
      filter_eq_nil_iff.2 (by simpa using areHandlers),
      filter_eq_self.2 (by simpa using split.2), nil_append]
  rw [body_eq, kept, rest, unnamed_exprs exprs closing, guarded]

lemma IsBody.drafted (body : IsBody t statements handlers)
    (comp : compile source t s = .ok (ds, s')) :
    ∃ es s1 hs, compileAll source statements s = .ok (es, s1) ∧
      compileAll source handlers s1 = .ok (hs, s') ∧ es.length = statements.length ∧
      (∀ e ∈ es, ∃ p, e = .expr p) ∧ hs.length = handlers.length ∧ ds = guarded es hs := by
  obtain ⟨begins, seq, guard, ends, closing⟩ := body
  obtain ⟨parts, inner, rfl⟩ := body_inv (by decide) comp
  rw [begins.skip] at inner
  obtain ⟨es, rest, s1, here, later, rfl⟩ := compileAll_cons_inv inner
  obtain ⟨hs, last, s2, guards, closes, rfl⟩ := compileAll_append_inv later
  obtain ⟨parts, _, own, whole⟩ := parts_of_compile here
  cases whole
  rw [seq.compiled] at own
  rw [ends.skip] at closes
  obtain ⟨guards, sameHandlers, areHandlers⟩ := guard.drafted guards
  obtain ⟨rfl, closed⟩ := closing.drafted closes
  obtain ⟨same, exprs⟩ := seq.exprs own
  exact ⟨es, s1, hs, own, guards, same, exprs, sameHandlers, body_guarded exprs areHandlers closed⟩

lemma skip_words (words : ∀ w ∈ us, IsLeaf .DECLARE w) :
    compileAll source (us ++ ts) s = compileAll source ts s := by
  induction us with
  | nil => rfl
  | cons w us ih =>
    obtain ⟨word, others⟩ := forall_mem_cons.1 words
    rw [cons_append, word.skip, ih others]

lemma IsBlock.drafted (block : IsBlock n declarations statements handlers)
    (comp : compile source n s = .ok (result, s')) :
    ∃ ds s1 es s2 hs, compileAll source declarations s = .ok (ds, s1) ∧
      compileAll source statements s1 = .ok (es, s2) ∧
      compileAll source handlers s2 = .ok (hs, s') ∧ es.length = statements.length ∧
      (∀ e ∈ es, ∃ p, e = .expr p) ∧ hs.length = handlers.length ∧
      result = ds ++ guarded es hs := by
  cases block with
  | bare body =>
    obtain ⟨es, s2, hs, own, guards, same, exprs, sameHandlers, rfl⟩ := body.drafted comp
    exact ⟨[], s, es, s2, hs, compileAll_nil, own, guards, same, exprs, sameHandlers, rfl⟩
  | declaring words phrases body =>
    obtain ⟨parts, s0, inner, whole⟩ := parts_of_compile comp
    cases whole
    rw [append_assoc, skip_words words] at inner
    obtain ⟨ds, rest, s1, declared, later, rfl⟩ := compileAll_append_inv inner
    obtain ⟨es, s2, hs, own, guards, same, exprs, sameHandlers, rfl⟩ :=
      body.drafted (compileAll_single_inv later)
    exact ⟨ds, s1, es, s2, hs, declared, own, guards, same, exprs, sameHandlers, rfl⟩

lemma opened_ne_cons (d : Draft) (es : List Draft) (some : es ≠ []) : d.opened ≠ d :: es := by
  intro same
  unfold Draft.opened at same
  split at same
  · have size := congrArg sizeOf same
    grind
  · exact some (List.cons.inj same).2.symm

/-- All of a block is left exactly if nothing is declared in it, and it has a handler or just one
statement. -/
lemma opened_first_iff (exprs : ∀ e ∈ es, ∃ p, e = .expr p) (some : es ≠ [])
    (first : (ds ++ guarded es hs).head? = .some p) :
    p.opened = ds ++ es ↔ ds = [] ∧ (hs ≠ [] ∨ es.length = 1) := by
  match ds, hs, es with
  | [], [], q :: es =>
    cases first
    obtain ⟨q, rfl⟩ := exprs p mem_cons_self
    simp [Draft.opened]
  | [], h :: hs, es =>
    cases first
    simp [Draft.opened]
  | d :: ds, hs, es =>
    cases first
    simpa using opened_ne_cons p (ds ++ es) (by simp [some])

lemma guard_or_first (first : (ds ++ guarded es hs).head? = .some p) :
    p = .guard es hs ∨ (ds ++ es).head? = .some p := by
  match ds, hs with
  | [], [] => exact .inr first
  | [], h :: hs =>
    cases first
    exact .inl rfl
  | d :: ds, hs => exact .inr first

/-- A block among the statements of a body, a branch or a loop is compiled in its place, and of its
declarations and statements all are left, in order, exactly if there are no declarations and either
handlers or one statement; else the first one is left. -/
theorem nested_block_complete_iff (inside : Inside (.node .statement [n]) e)
    (block : IsBlock n declarations statements handlers) (some : statements ≠ [])
    (compiled : compile source e s = .ok (result, s')) :
    ∃ s₀ ds s₁ es s₂ hs s₃ p, compileAll source declarations s₀ = .ok (ds, s₁) ∧
      compileAll source statements s₁ = .ok (es, s₂) ∧
      compileAll source handlers s₂ = .ok (hs, s₃) ∧
      compile source (.node .statement [n]) s₀ = .ok ([.expr p], s₃) ∧
      StandsIn (.expr p) result ∧
      (p.opened = ds ++ es ↔ ds = [] ∧ (handlers ≠ [] ∨ statements.length = 1)) ∧
      (p = .guard es hs ∨ (ds ++ es).head? = .some p) := by
  obtain ⟨s₀, p, s₃, statement, stands⟩ := inside.keeps compiled
  obtain ⟨q, rest, inner, made⟩ := statement_inv statement
  cases made
  obtain ⟨ds, s₁, es, s₂, hs, declared, own, guards, same, exprs, sameHandlers, parts⟩ :=
    block.drafted (compileAll_single_inv inner)
  have first : (ds ++ guarded es hs).head? = .some p := by rw [← parts, List.head?_cons]
  have spoken : es ≠ [] := by simpa [← length_pos_iff, same] using some
  have complete := opened_first_iff exprs spoken first
  rw [same, ← length_pos_iff, sameHandlers, length_pos_iff] at complete
  exact ⟨s₀, ds, s₁, es, s₂, hs, s₃, p, declared, own, guards, statement, stands, complete,
    guard_or_first first⟩

end

open BlockScript.Core

def semicolonTree : Tree Token := leafOf .SEMICOLON ";"

def bodyTree (statements : List (Tree Token)) : Tree Token :=
  .node .body [leafOf .BEGIN "begin",
    .node .seqOfStatements (statements.flatMap fun t => [t, semicolonTree]), leafOf .END "end"]

def nullTree : Tree Token := .node .statement [.node .nullStatement [leafOf .NULL "null"]]

def exitTree : Tree Token := .node .statement [.node .exitStatement [leafOf .EXIT "exit"]]

def handlerTree : Tree Token :=
  .node .exceptionHandler
    [leafOf .WHEN "when",
      .node .exceptionName [.node .identifier [.node .idExpression [nameTree "others"]]],
      leafOf .THEN "then", .node .seqOfStatements [nullTree, semicolonTree]]

def guardedTree : Tree Token :=
  .node .body
    [leafOf .BEGIN "begin",
      .node .seqOfStatements [nullTree, semicolonTree, exitTree, semicolonTree],
      leafOf .EXCEPTION "exception", handlerTree, leafOf .END "end"]

def loopTree : Tree Token :=
  .node .statement
    [.node .loopStatement
      [leafOf .LOOP "loop",
        .node .seqOfStatements [.node .statement [guardedTree], semicolonTree],
        leafOf .END "end", leafOf .LOOP "loop"]]

/-- Both statements of a block with a handler are left, in a loop that is itself a statement of a
body. -/
theorem guarded_block_complete :
    Inside (.node .statement [guardedTree]) (bodyTree [loopTree]) ∧
      IsBlock guardedTree [] [nullTree, exitTree] [handlerTree] ∧ [nullTree, exitTree] ≠ [] ∧
      ∃ result s', compile "" (bodyTree [loopTree]) {} = .ok (result, s') ∧
        ∃ s₁ es s₂ p, compileAll "" [nullTree, exitTree] s₁ = .ok (es, s₂) ∧
          StandsIn (.expr p) result ∧ p.opened = es := by
  have inside : Inside (.node .statement [guardedTree]) (bodyTree [loopTree]) :=
    .deeper (.body [_] [] [_] [_] (by decide)) (.plain (by decide))
      (.direct (.loop (.uncounted [_] [] [_] [_, _] (by decide)) (by decide)))
  have guard : IsGuard [leafOf .EXCEPTION "exception", handlerTree] [handlerTree] :=
    .some ⟨_, rfl⟩ (by simp [handlerTree]) (cons_ne_nil _ _)
  have block : IsBlock guardedTree [] [nullTree, exitTree] [handlerTree] :=
    .bare (.mk ⟨_, rfl⟩ (.cons ⟨_, rfl⟩ (.cons ⟨_, rfl⟩ .nil)) guard ⟨_, rfl⟩ .none)
  refine ⟨inside, block, cons_ne_nil _ _, _, _, rfl, ?_⟩
  obtain ⟨s₀, ds, s₁, es, s₂, hs, s₃, p, declared, own, -, -, stands, complete, -⟩ :=
    nested_block_complete_iff inside block (cons_ne_nil _ _) rfl
  cases compileAll_nil.symm.trans declared
  exact ⟨s₀, es, s₂, p, own, stands, complete.2 ⟨rfl, .inl (cons_ne_nil _ _)⟩⟩

def assignTree (id digits : String) : Tree Token :=
  .node .statement
    [.node .assignmentStatement [referenceTree id, leafOf .ASSIGN_OP ":=", numeralTree digits]]

def assignDraft (name : String) (n : Nat) : Draft :=
  .expr (.update (.ident name) (Arith.number n).draft)

/-- Of two assignments in a block without a handler the second one is lost. -/
theorem second_assignment_lost :
    let block := bodyTree [assignTree "x" "2", assignTree "x" "3"]
    let outer := bodyTree [.node .statement [block]]
    let s := ({} : Scope).declare "X"
    Inside (.node .statement [block]) outer ∧
      IsBlock block [] [assignTree "x" "2", assignTree "x" "3"] [] ∧
      compile "" (assignTree "x" "3") s = .ok ([assignDraft "X" 3], s) ∧
      ∃ result, compile "" outer s = .ok (result, s) ∧ ¬ StandsIn (assignDraft "X" 3) result := by
  intro block outer s
  have three : compile "" (assignTree "x" "3") s = .ok ([assignDraft "X" 3], s) := by
    with_unfolding_all rfl
  have whole : compile "" outer s = .ok ([.expr (assignDraft "X" 2)], s) := by
    with_unfolding_all rfl
  refine ⟨.direct (.body [_] [] [_] [_] (by decide)), ?_, three, _, whole, ?_⟩
  · exact .bare (.mk ⟨_, rfl⟩ (.cons ⟨_, rfl⟩ (.cons ⟨_, rfl⟩ .nil)) .none ⟨_, rfl⟩ .none)
  · simp [assignDraft, Draft.parts, Draft.ident, Draft.cell, Arith.draft]

end Compile
end BlockScript
