import BlockScript.Proofs.NestedBlocks

/-!
The statements of a loop. Labels, head and statements of a loop are compiled to one list, and the
loop takes one draft for its head off the front and, if it begins with a label, one more off each
end.
-/

namespace BlockScript

def Draft.loopBody? : Draft → Option (List Draft)
  | .whileLoop _ body | .forLoop _ _ body => some body
  | _ => none

namespace Compile

inductive LabelForm where
  | absent
  | quoted
  | regular
deriving DecidableEq

namespace LabelForm

def drafts : LabelForm → Nat
  | .regular => 1
  | _ => 0

def taken : LabelForm → Nat
  | .absent => 0
  | _ => 1

end LabelForm

inductive IsLabelName : LabelForm → Tree Token → Prop where
  | regular : IsLabelName .regular (.node .labelName [.node .idExpression [.node .regularId name]])
  | quoted (word : IsLeaf .DELIMITED_ID w) :
      IsLabelName .quoted (.node .labelName [.node .idExpression [w]])

inductive IsOpening : LabelForm → List (Tree Token) → Prop where
  | absent : IsOpening .absent []
  | present (open₁ : IsLeaf .LESS_THAN_OP l₁) (open₂ : IsLeaf .LESS_THAN_OP l₂)
      (name : IsLabelName form t) (close₁ : IsLeaf .GREATER_THAN_OP r₁)
      (close₂ : IsLeaf .GREATER_THAN_OP r₂) :
      IsOpening form [.node .labelDeclaration [l₁, l₂, t, r₁, r₂]]

inductive IsEnding : LabelForm → List (Tree Token) → Prop where
  | absent : IsEnding .absent []
  | present (name : IsLabelName form t) : IsEnding form [t]

inductive LoopKind where
  | endless
  | tested
  | counting
deriving DecidableEq

def LoopKind.taken : LoopKind → Nat
  | .endless => 0
  | _ => 1

inductive IsHead : LoopKind → List (Tree Token) → Prop where
  | endless : IsHead .endless []
  | tested (word : IsLeaf .WHILE w)
      (plain : shows [.statement, .unitStatement] (.node .condition ts) = false) :
      IsHead .tested [w, .node .condition ts]
  | counting (word : IsLeaf .FOR w) : IsHead .counting [w, .node .cursorLoopParam ts]

inductive IsLoop (opening closing : LabelForm) (kind : LoopKind) (head : List (Tree Token)) :
    Tree Token → List (Tree Token) → Prop where
  | mk (opens : IsOpening opening before) (heads : IsHead kind head) (begins : IsLeaf .LOOP b)
      (sequence : IsSequence ts statements) (ends : IsLeaf .END e) (again : IsLeaf .LOOP l)
      (closes : IsEnding closing after) :
      IsLoop opening closing kind head
        (.node .loopStatement
          (before ++ (head ++ b :: .node .seqOfStatements ts :: e :: l :: after))) statements

section

variable {source : String} {s s' s₁ s₂ : Scope} {t e : Tree Token}
  {ts head statements before after : List (Tree Token)} {ds es hs parts front back : List Draft}
  {opening closing form : LabelForm} {kind : LoopKind}

def AreNames (form : LabelForm) (ds : List Draft) : Prop :=
  ds.length = form.drafts ∧ ∀ d ∈ ds, ∃ name, d = .ident name

lemma IsLabelName.compiled (name : IsLabelName form t) (s) :
    ∃ ds, compile source t s = .ok (ds, s) ∧ AreNames form ds := by
  cases name with
  | regular => exact ⟨_, compile_label, rfl, forall_single ⟨_, rfl⟩⟩
  | quoted word =>
    refine ⟨[], ?_, rfl, List.forall_mem_nil _⟩
    refine compile_of_parts (compileAll_single (compile_of_parts ?_ rfl)) rfl
    rw [word.skip, compileAll_nil]

lemma IsOpening.compiled (opens : IsOpening form ts) (s) :
    ∃ ds, compileAll source ts s = .ok (ds, s) ∧ AreNames form ds := by
  cases opens with
  | absent => exact ⟨[], compileAll_nil, rfl, List.forall_mem_nil _⟩
  | present open1 open2 name close1 close2 =>
    obtain ⟨ds, word, names⟩ : ∃ ds, compile source _ s = .ok (ds, s) ∧ AreNames form ds :=
      name.compiled s
    refine ⟨ds, compileAll_single (compile_of_parts ?_ rfl), names⟩
    rw [open1.skip, open2.skip, ← append_nil ds]
    refine compileAll_cons word ?_
    rw [close1.skip, close2.skip, compileAll_nil]

lemma IsEnding.compiled (closes : IsEnding form ts) (s) :
    ∃ ds, compileAll source ts s = .ok (ds, s) ∧ AreNames form ds := by
  cases closes with
  | absent => exact ⟨[], compileAll_nil, rfl, List.forall_mem_nil _⟩
  | present name =>
    obtain ⟨ds, word, names⟩ : ∃ ds, compile source _ s = .ok (ds, s) ∧ AreNames form ds :=
      name.compiled s
    exact ⟨ds, compileAll_single word, names⟩

lemma AreNames.no_expr (names : AreNames form ds) : ∀ d ∈ ds, d.isExpr = false := by
  intro d mem
  obtain ⟨name, rfl⟩ := names.2 d mem
  rfl

lemma IsHead.counted (heads : IsHead .counting head)
    (comp : compileAll source head s = .ok (hs, s')) :
    ∃ target range, hs = [.forLoop target range []] := by
  cases heads with
  | counting word =>
    rw [word.skip] at comp
    exact counting_inv (compileAll_single_inv comp)

lemma IsHead.no_expr (heads : IsHead kind head)
    (comp : compileAll source head s = .ok (hs, s')) : ∀ d ∈ hs, d.isExpr = false := by
  cases kind with
  | endless =>
    cases heads
    cases compileAll_nil.symm.trans comp
    exact List.forall_mem_nil _
  | tested =>
    obtain ⟨⟩ | ⟨word, plain⟩ := heads
    rw [word.skip] at comp
    intro d mem
    exact (always_comes _ s hs s' (compileAll_single_inv comp) d mem).no_expr plain
  | counting =>
    obtain ⟨target, range, rfl⟩ := heads.counted comp
    exact forall_single rfl

/-- Statements between other drafts are left if and only if just the others are taken off. -/
lemma trimmed_iff (some : es ≠ []) (exprs : ∀ e ∈ es, e.isExpr = true)
    (noFront : ∀ d ∈ front, d.isExpr = false) (noBack : ∀ d ∈ back, d.isExpr = false) :
    ((front ++ (es ++ back)).drop n).rdrop k = es ↔ n = front.length ∧ k = back.length := by
  constructor
  · intro left
    have total := congrArg List.length left
    have size := length_pos_iff.2 some
    rw [List.rdrop, length_take, length_drop, length_append, length_append] at total
    have item : ∀ i < es.length, es[i]? = (front ++ (es ++ back))[n + i]? := by
      intro i bound
      conv_lhs => rw [← left]
      rw [List.rdrop, List.getElem?_take_of_lt, List.getElem?_drop]
      rw [length_drop, length_append, length_append]
      omega
    -- were too few taken off an end, a draft that is no statement would be left there
    have first : front.length ≤ n := by
      by_contra few
      have same := item 0 size
      rw [List.getElem?_append_left (by omega), getElem?_eq_getElem size,
        getElem?_eq_getElem (by omega)] at same
      have is := exprs _ (getElem_mem size)
      rw [Option.some.inj same, noFront _ (getElem_mem _)] at is
      cases is
    have last : back.length ≤ k := by
      by_contra few
      have same := item (es.length - 1) (by omega)
      rw [List.getElem?_append_right (by omega), List.getElem?_append_right (by omega),
        getElem?_eq_getElem (by omega), getElem?_eq_getElem (by omega)] at same
      have is := exprs _ (getElem_mem (show es.length - 1 < es.length by omega))
      rw [Option.some.inj same, noBack _ (getElem_mem _)] at is
      cases is
    omega
  · simp_all

lemma IsOpening.found (opens : IsOpening form before) (ts) :
    hasPhrase (before ++ ts) .labelDeclaration =
        (decide (form ≠ .absent) || hasPhrase ts .labelDeclaration) ∧
      ∀ word, has (before ++ ts) word = has ts word := by
  cases opens with
  | absent => exact ⟨rfl, fun _ => rfl⟩
  | present _ _ name =>
    cases name <;> simp

lemma IsEnding.found (closes : IsEnding form after) :
    hasPhrase after .labelDeclaration = false ∧ ∀ word, has after word = false := by
  cases closes with
  | absent => exact ⟨rfl, fun _ => rfl⟩
  | present name => cases name <;> exact ⟨by simp, fun word => by simp⟩

lemma IsLoop.words (loop : IsLoop opening closing kind head (.node .loopStatement ts) statements) :
    hasPhrase ts .labelDeclaration = decide (opening ≠ .absent) ∧
      has ts .WHILE = decide (kind = .tested) ∧ has ts .FOR = decide (kind = .counting) := by
  cases loop with
  | mk opens heads begins seq ends again closes =>
    obtain ⟨b, begins⟩ := begins
    obtain ⟨e, ends⟩ := ends
    obtain ⟨l, again⟩ := again
    obtain ⟨unlabelled, none⟩ := closes.found
    rw [(opens.found _).1, (opens.found _).2, (opens.found _).2]
    cases heads with
    | endless => simp [begins, ends, again, unlabelled, none]
    | tested word | counting word =>
      obtain ⟨w, word⟩ := word
      simp [begins, ends, again, unlabelled, none, word]

lemma IsLoop.parts_inv
    (loop : IsLoop opening closing kind head (.node .loopStatement ts) statements)
    (comp : compile source (.node .loopStatement ts) s = .ok (ds, s')) :
    ∃ hs s₁ es s₂, compileAll source head s = .ok (hs, s₁) ∧
      compileAll source statements s₁ = .ok (es, s₂) := by
  cases loop with
  | mk opens heads begins seq ends again closes =>
    obtain ⟨parts, _, inner, -⟩ := parts_of_compile comp
    obtain ⟨os, rest, s0, first, later, rfl⟩ := compileAll_append_inv inner
    obtain ⟨names, same, -⟩ := opens.compiled s
    cases same.symm.trans first
    obtain ⟨hs, others, s₁, header, behind, rfl⟩ := compileAll_append_inv later
    rw [begins.skip] at behind
    obtain ⟨es, _, s₂, own, -, rfl⟩ := compileAll_cons_inv behind
    obtain ⟨_, _, body, made⟩ := parts_of_compile own
    cases made
    exact ⟨hs, s₁, es, s₂, header, (seq.compiled s₁).symm.trans body⟩

section

variable (words : hasPhrase ts .labelDeclaration = decide (opening ≠ .absent) ∧
  has ts .WHILE = decide (kind = .tested) ∧ has ts .FOR = decide (kind = .counting))
include words

lemma unlabelled_iff (some : ds ≠ []) :
    unlabelled ts parts = .ok ds ↔ (parts.drop opening.taken).rdrop opening.taken = ds := by
  rw [unlabelled, words.1]
  by_cases absent : opening = .absent
  · simp [absent, LabelForm.taken, pure, Except.pure]
  · have taken : opening.taken = 1 := by
      cases opening with
      | absent => exact absurd rfl absent
      | quoted | regular => rfl
    rw [taken]
    rcases parts with _ | ⟨_, _ | ⟨part, parts⟩⟩
    · simp [absent, first, some.symm, bind, Except.bind]
    · simp [absent, first, dropFinal, some.symm, bind, Except.bind]
    · simp [absent, first, dropFinal, bind, Except.bind, List.rdrop, List.dropLast_eq_take]

lemma loopOf_body_inv (made : loopOf ts parts = .ok d) (body : d.loopBody? = some es)
    (counts : kind = .counting → ∀ test body, .whileLoop test body ∉ parts) :
    parts.drop kind.taken = es := by
  unfold loopOf at made
  rw [words.2.1, words.2.2] at made
  cases kind with
  | endless =>
    cases made
    exact Option.some.inj body
  | tested =>
    obtain ⟨⟨test, rest⟩, split, made⟩ := steps_of_bind made
    cases made
    rw [first_inv split]
    exact Option.some.inj body
  | counting =>
    obtain ⟨⟨loop, rest⟩, split, made⟩ := steps_of_bind made
    cases made
    rw [first_inv split] at counts ⊢
    cases loop
    case forLoop => exact Option.some.inj body
    case whileLoop test inner => exact absurd mem_cons_self (counts rfl test inner)
    all_goals cases body

lemma loopOf_made (size : ds.length = kind.taken)
    (counts : kind = .counting → ∃ target range, ds = [.forLoop target range []]) :
    ∃ d, loopOf ts (ds ++ es) = .ok d ∧ d.loopBody? = some es := by
  unfold loopOf
  rw [words.2.1, words.2.2]
  cases kind with
  | endless =>
    rw [length_eq_zero_iff.1 size]
    exact ⟨_, rfl, rfl⟩
  | tested =>
    obtain ⟨test, rfl⟩ := List.length_eq_one_iff.1 size
    exact ⟨_, rfl, rfl⟩
  | counting =>
    obtain ⟨target, range, rfl⟩ := counts rfl
    exact ⟨_, rfl, rfl⟩

end

lemma drop_rdrop (n k m : Nat) :
    ((parts.drop n).rdrop k).drop m = (parts.drop (n + m)).rdrop k := by
  simp only [List.rdrop, List.drop_take, List.drop_drop, length_drop]
  congr 1
  omega

lemma compile_loop_iff (got : compileAll source ts s = .ok (parts, s₁)) :
    compile source (.node .loopStatement ts) s = .ok ([d], s₁) ↔ Compile.loop ts parts = .ok d := by
  constructor
  · intro comp
    obtain ⟨_, _, inner, whole⟩ := parts_of_compile comp
    cases got.symm.trans inner
    obtain ⟨_, made, same⟩ := single_inv whole
    cases same
    exact made
  · exact fun made => compile_of_parts got (single_of made)

structure AreLoopDrafts (opening closing : LabelForm) (kind : LoopKind) (os hs es cs : List Draft) :
    Prop where
  opens : AreNames opening os
  heads : ∀ d ∈ hs, d.isExpr = false
  counts : kind = .counting → ∃ target range, hs = [.forLoop target range []]
  body : ∀ e ∈ es, ∃ p, e = .expr p
  nonempty : es ≠ []
  closes : AreNames closing cs

section

variable (drafts : AreLoopDrafts opening closing kind os hs es cs)
include drafts

lemma AreLoopDrafts.trimmed_iff :
    ((os ++ hs ++ (es ++ cs)).drop (opening.taken + kind.taken)).rdrop opening.taken = es ↔
      opening.drafts + hs.length = opening.taken + kind.taken ∧ closing.drafts = opening.taken := by
  have exprs : ∀ e ∈ es, e.isExpr = true := by
    intro e mem
    obtain ⟨p, rfl⟩ := drafts.body e mem
    rfl
  rw [Compile.trimmed_iff drafts.nonempty exprs
    (forall_mem_append.2 ⟨drafts.opens.no_expr, drafts.heads⟩) drafts.closes.no_expr,
    length_append, drafts.opens.1, drafts.closes.1, eq_comm, eq_comm (b := closing.drafts)]

lemma AreLoopDrafts.no_while (counting : kind = .counting) (test : Draft) (inner : List Draft) :
    ∀ d ∈ os ++ hs ++ (es ++ cs), d ≠ .whileLoop test inner := by
  obtain ⟨target, range, rfl⟩ := drafts.counts counting
  simp only [forall_mem_append]
  refine ⟨⟨fun d mem => ?_, nofun⟩, fun d mem => ?_, fun d mem => ?_⟩
  · obtain ⟨name, rfl⟩ := drafts.opens.2 d mem
    exact nofun
  · obtain ⟨p, rfl⟩ := drafts.body d mem
    exact nofun
  · obtain ⟨name, rfl⟩ := drafts.closes.2 d mem
    exact nofun

lemma AreLoopDrafts.kept_iff (words : hasPhrase ts .labelDeclaration = decide (opening ≠ .absent) ∧
      has ts .WHILE = decide (kind = .tested) ∧ has ts .FOR = decide (kind = .counting)) :
    (∃ d, Compile.loop ts (os ++ hs ++ (es ++ cs)) = .ok d ∧ d.loopBody? = some es) ↔
      opening.drafts + hs.length = opening.taken + kind.taken ∧ closing.drafts = opening.taken := by
  rw [loop_eq]
  constructor
  · rintro ⟨d, made, kept⟩
    obtain ⟨rest, cut, made⟩ := steps_of_bind made
    have body := loopOf_body_inv words made kept fun counting test inner mem =>
      given_unlabelled (drafts.no_while counting test inner) rest cut _ mem rfl
    have nonempty : rest ≠ [] := by
      rintro rfl
      exact drafts.nonempty (body.symm.trans List.drop_nil)
    rw [← drafts.trimmed_iff, ← drop_rdrop, (unlabelled_iff words nonempty).1 cut]
    exact body
  · rintro ⟨front, back⟩
    have size : opening.taken ≤ (os ++ hs).length := by
      rw [length_append, drafts.opens.1]
      omega
    have cut : unlabelled ts (os ++ hs ++ (es ++ cs)) =
        .ok ((os ++ hs).drop opening.taken ++ es) := by
      rw [unlabelled_iff words (by simp [drafts.nonempty]), List.drop_append_of_le_length size,
        ← append_assoc, ← back, ← drafts.closes.1, List.rdrop_append_length]
    rw [cut]
    refine loopOf_made words ?_ fun counting => ?_
    · rw [length_drop, length_append, drafts.opens.1]
      omega
    · obtain ⟨target, range, rfl⟩ := drafts.counts counting
      refine ⟨target, range, ?_⟩
      subst counting
      rw [List.drop_left']
      rw [drafts.opens.1]
      exact Nat.add_right_cancel front

end

lemma IsLoop.collected
    (loop : IsLoop opening closing kind head (.node .loopStatement ts) statements)
    (nonempty : statements ≠ []) (header : compileAll source head s = .ok (hs, s₁))
    (body : compileAll source statements s₁ = .ok (es, s₂)) :
    ∃ os cs, AreLoopDrafts opening closing kind os hs es cs ∧
      compileAll source ts s = .ok (os ++ hs ++ (es ++ cs), s₂) := by
  cases loop with
  | mk opens heads begins seq ends again closes =>
    obtain ⟨os, front, named⟩ := opens.compiled s
    obtain ⟨cs, back, closed⟩ := closes.compiled s₂
    obtain ⟨long, exprs⟩ := seq.exprs body
    have some : es ≠ [] := by
      rintro rfl
      exact nonempty (length_eq_zero_iff.1 long.symm)
    refine ⟨os, cs, ⟨named, heads.no_expr header, ?_, exprs, some, closed⟩, ?_⟩
    · rintro rfl
      exact heads.counted header
    rw [append_assoc]
    refine compileAll_append front (compileAll_append header ?_)
    rw [begins.skip]
    refine compileAll_cons (compile_sequence ((seq.compiled s₁).trans body)) ?_
    rw [ends.skip, again.skip]
    exact back

/-- The body of a loop is what its statements compile to if and only if the opening label and the
head compile to as many drafts as are taken off the front, and so does the closing label at the
end. -/
theorem loop_body_kept_iff (loop : IsLoop opening closing kind head e statements)
    (nonempty : statements ≠ []) :
    (∀ ds s', compile source e s = .ok (ds, s') → ∃ hs s₁ es s₂,
      compileAll source head s = .ok (hs, s₁) ∧ compileAll source statements s₁ = .ok (es, s₂)) ∧
    ∀ hs s₁ es s₂, compileAll source head s = .ok (hs, s₁) →
      compileAll source statements s₁ = .ok (es, s₂) →
      ((∃ d, compile source e s = .ok ([d], s₂) ∧ d.loopBody? = some es) ↔
        opening.drafts + hs.length = opening.taken + kind.taken ∧
          closing.drafts = opening.taken) := by
  obtain ⟨ts, rfl⟩ : ∃ ts, e = .node .loopStatement ts := by
    cases loop
    exact ⟨_, rfl⟩
  refine ⟨fun ds s' compiled => loop.parts_inv compiled, fun hs s₁ es s₂ header body => ?_⟩
  obtain ⟨os, cs, drafts, collected⟩ := loop.collected nonempty header body
  simp only [compile_loop_iff collected]
  exact drafts.kept_iff loop.words

open BlockScript.Core

def labelTree (name : String) : Tree Token :=
  .node .labelName [.node .idExpression [nameTree name]]

def labelledLoop (after : List (Tree Token)) : Tree Token :=
  .node .loopStatement
    ([.node .labelDeclaration [leafOf .LESS_THAN_OP "<", leafOf .LESS_THAN_OP "<", labelTree "l",
        leafOf .GREATER_THAN_OP ">", leafOf .GREATER_THAN_OP ">"]] ++
      ([] ++ leafOf .LOOP "loop" ::
        .node .seqOfStatements [nullTree, semicolonTree, exitTree, semicolonTree] ::
        leafOf .END "end" :: leafOf .LOOP "loop" :: after))

lemma labelledLoop_isLoop (closes : IsEnding closing after) :
    IsLoop .regular closing .endless [] (labelledLoop after) [nullTree, exitTree] :=
  .mk (.present ⟨_, rfl⟩ ⟨_, rfl⟩ .regular ⟨_, rfl⟩ ⟨_, rfl⟩) .endless ⟨_, rfl⟩
    (.cons ⟨_, rfl⟩ (.cons ⟨_, rfl⟩ .nil)) ⟨_, rfl⟩ ⟨_, rfl⟩ closes

/-- Under the same label at both ends a loop keeps both statements. -/
theorem labelled_loop_kept :
    ∃ d, compile "" (labelledLoop [labelTree "l"]) {} = .ok ([d], {}) ∧
      d.loopBody? = some [.expr .pass, .expr .breakLoop] :=
  ((loop_body_kept_iff (labelledLoop_isLoop (.present .regular)) (cons_ne_nil _ _)).2 _ _ _ _
    rfl rfl).2 ⟨rfl, rfl⟩

/-- Without the label at its end the last statement is lost. -/
theorem last_statement_lost :
    IsLoop .regular .absent .endless [] (labelledLoop []) [nullTree, exitTree] ∧
      compileAll "" [nullTree, exitTree] {} = .ok ([.expr .pass, .expr .breakLoop], {}) ∧
      ∃ d, compile "" (labelledLoop []) {} = .ok ([d], {}) ∧ d.loopBody? = some [.expr .pass] :=
  ⟨labelledLoop_isLoop .absent, rfl, _, rfl, rfl⟩

end

end Compile
end BlockScript
