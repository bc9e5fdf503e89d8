import BlockScript.Proofs.NestedBlocks

/-!
Branches with any number of alternatives. The tests and statements of all alternatives are compiled
to one list and told apart by marks. The branch that is put together from it has each alternative
inside the one before it. The first draft of an alternative is taken for its test, so its statements
are kept as they are if and only if its test compiles to one draft.
-/

namespace BlockScript.Compile

/-- Branches, each inside the one before it. -/
def chain : List (Draft × List Draft) → List Draft → List Draft
  | [], orelse => orelse
  | (test, body) :: rest, orelse => [.branch test body (chain rest orelse)]

/-- An alternative with a test. -/
structure Arm where
  opens : Token
  test : Tree Token
  thens : Token
  body : Tree Token

def Arm.tree (kind : Nonterminal) (a : Arm) : Tree Token :=
  .node kind [.leaf a.opens, a.test, .leaf a.thens, a.body]

inductive ChoiceKind where
  | conditional
  | searched (word : Token)
  | simple (word : Token) (selector : Tree Token)

structure Choice where
  kind : ChoiceKind
  first : Arm
  rest : List Arm
  orelse : Option (Token × Tree Token)
  ends : List Token

namespace Choice

def arms (c : Choice) : List Arm := c.first :: c.rest

def selector (c : Choice) : Option (Tree Token) :=
  match c.kind with
  | .simple _ selector => some selector
  | _ => none

def last (c : Choice) (kind : Nonterminal) : List (Tree Token) :=
  (c.orelse.map fun o => .node kind [.leaf o.1, o.2]).toList ++ c.ends.map .leaf

def tree (c : Choice) : Tree Token :=
  match c.kind with
  | .conditional => .node .ifStatement (.leaf c.first.opens :: c.first.test ::
      .leaf c.first.thens :: c.first.body :: (c.rest.map (·.tree .elsifPart) ++ c.last .elsePart))
  | .searched word => .node .searchedCaseStatement
      (.leaf word :: (c.arms.map (·.tree .searchedCaseWhenPart) ++ c.last .caseElsePart))
  | .simple word selector => .node .simpleCaseStatement
      (.leaf word :: selector :: (c.arms.map (·.tree .simpleCaseWhenPart) ++ c.last .caseElsePart))

/-- No alternative stands in a part of the branch, except inside of branches and statements. -/
def isFree (c : Choice) : Bool :=
  c.arms.all (fun a => markFree a.test && markFree a.body) && c.orelse.all (markFree ·.2)

end Choice

inductive CompileArms (source : String) :
    List Arm → Scope → List (List Draft × List Draft) → Scope → Prop where
  | nil : CompileArms source [] s [] s
  | cons (test : compile source a.test s = .ok (ts, s₁))
      (body : compile source a.body s₁ = .ok (bs, s₂)) (rest : CompileArms source as s₂ ps s₃) :
      CompileArms source (a :: as) s ((ts, bs) :: ps) s₃

inductive CompileSelector (source : String) :
    Option (Tree Token) → Scope → Option Draft → Scope → Prop where
  | none : CompileSelector source none s none s
  | some (compiled : compile source t s = .ok ([d], s₁)) :
      CompileSelector source (some t) s (some d) s₁

def compared (selector : Option Draft) (test : Draft) : Draft :=
  match selector with
  | none => test
  | some value => .binary value (.comparison .eq) test

/-- An alternative as it is read back from its drafts: the first is the test. -/
def readBack (selector : Option Draft) (p : List Draft × List Draft) : Draft × List Draft :=
  (compared selector ((p.1 ++ p.2).headD .missing), (p.1 ++ p.2).tail)

inductive IsOrelse : List Draft → List Draft → Prop where
  | absent : IsOrelse [] []
  | present (unmarked : AllUnmarked es) : IsOrelse (.elseMark :: es) es

variable {source : String} {s s₁ s₂ s₃ : Scope} {kind : Nonterminal}
  {ps : List (List Draft × List Draft)} {es ds : List Draft}

def marked (qs : List (Draft × List Draft)) (ds : List Draft) : List Draft :=
  qs.flatMap (fun q => .elsifMark :: q.1 :: q.2) ++ ds

def AllClear (qs : List (Draft × List Draft)) : Prop :=
  ∀ q ∈ qs, IsUnmarked q.1 ∧ AllUnmarked q.2

lemma marked_cons (q : Draft × List Draft) (qs : List (Draft × List Draft)) (ds : List Draft) :
    marked (q :: qs) ds = .elsifMark :: (q.1 :: q.2 ++ marked qs ds) := by
  simp [marked]

lemma fold_marked (clear : AllClear qs) (ends : IsOrelse ds es) :
    ∃ latest, (marked qs ds).reverse.foldlM Chain.step {} = .ok ⟨[], chain qs es, latest⟩ := by
  induction qs with
  | nil =>
    cases ends with
    | absent => exact ⟨.missing, rfl⟩
    | present unmarked => exact ⟨.elseMark, else_parts unmarked⟩
  | cons q qs ih =>
    obtain ⟨⟨unmarkedTest, unmarked⟩, clear⟩ := forall_mem_cons.1 clear
    obtain ⟨latest, later⟩ := ih clear
    refine ⟨.elsifMark, ?_⟩
    rw [marked_cons]
    exact elsif_parts unmarkedTest unmarked later

lemma branch_marked (clear : AllClear qs) (some : qs ≠ []) (ends : IsOrelse ds es) :
    ∃ d, branch (marked qs ds).tail = .ok d ∧ chain qs es = [d] := by
  obtain ⟨q, qs, rfl⟩ := List.exists_cons_of_ne_nil some
  obtain ⟨⟨unmarkedTest, unmarked⟩, clear⟩ := forall_mem_cons.1 clear
  obtain ⟨latest, later⟩ := fold_marked clear ends
  rw [marked_cons]
  exact ⟨_, branch_parts unmarkedTest unmarked later, rfl⟩

lemma compareWith_unmarked_eq {rest : List Draft} (unmarked : AllUnmarked front)
    (later : compareWith value back = .ok rest) :
    compareWith value (front ++ back) = .ok (front ++ rest) := by
  induction front with
  | nil => exact later
  | cons part front ih =>
    obtain ⟨here, others⟩ := forall_mem_cons.1 unmarked
    rw [cons_append, compareWith, ih others]
    · rfl
    · rintro rfl
      exact absurd rfl here.1
    · rintro _ _ rfl
      exact absurd rfl here.1

lemma compareWith_marked (clear : AllClear qs) (ends : IsOrelse ds es) :
    compareWith value (marked qs ds) =
      .ok (marked (qs.map fun q => (compared (some value) q.1, q.2)) ds) := by
  induction qs with
  | nil =>
    cases ends with
    | absent => rfl
    | present unmarked =>
      have behind : compareWith value (es ++ []) = .ok (es ++ []) :=
        compareWith_unmarked_eq unmarked rfl
      rw [append_nil] at behind
      simp only [marked, List.flatMap_nil, nil_append]
      rw [compareWith, behind]
      all_goals simp
  | cons q qs ih =>
    obtain ⟨⟨-, unmarked⟩, clear⟩ := forall_mem_cons.1 clear
    have later : compareWith value (q.2 ++ marked qs ds) = .ok (q.2 ++ _) :=
      compareWith_unmarked_eq unmarked (ih clear)
    rw [marked_cons, map_cons, marked_cons, cons_append, compareWith, later]
    rfl

lemma selectedCase_marked (clear : AllClear qs) (some : qs ≠ []) (ends : IsOrelse ds es) :
    selectedCase (value :: marked qs ds) =
      branch (marked (qs.map fun q => (compared (Option.some value) q.1, q.2)) ds).tail := by
  unfold selectedCase
  simp only [first, bind, Except.bind, compareWith_marked clear ends]
  obtain ⟨q, qs, rfl⟩ := List.exists_cons_of_ne_nil some
  rfl

lemma searchedCase_marked (some : qs ≠ []) :
    searchedCase (marked qs ds) = branch (marked qs ds).tail := by
  obtain ⟨q, qs, rfl⟩ := List.exists_cons_of_ne_nil some
  rfl

lemma compileAll_arm {a : Arm} (test : compile source a.test s = .ok (ts, s₁))
    (body : compile source a.body s₁ = .ok (bs, s₂))
    (rest : compileAll source us s₂ = .ok (ds, s₃)) :
    compileAll source (.leaf a.opens :: a.test :: .leaf a.thens :: a.body :: us) s =
      .ok (ts ++ (bs ++ ds), s₃) := by
  rw [compileAll_leaf]
  refine compileAll_cons test ?_
  rw [compileAll_leaf]
  exact compileAll_cons body rest

lemma CompileArms.compiled (comp : CompileArms source as s ps s₁) (kind) (is : kind ∈ tested) :
    compileAll source (as.map (·.tree kind)) s =
      .ok (ps.flatMap fun p => .elsifMark :: (p.1 ++ p.2), s₁) := by
  induction comp with
  | nil => exact compileAll_nil
  | cons test body _ ih =>
    refine compileAll_cons ?_ ih
    have inner := compileAll_arm test body compileAll_nil
    rw [append_nil] at inner
    fin_cases is
    all_goals exact compile_of_parts inner rfl

lemma CompileArms.unmarked (comp : CompileArms source as s ps s₁)
    (free : ∀ a ∈ as, markFree a.test = true ∧ markFree a.body = true) :
    ∀ p ∈ ps, AllUnmarked (p.1 ++ p.2) := by
  induction comp with
  | nil => exact nofun
  | cons test body _ ih =>
    obtain ⟨⟨freeTest, freeBody⟩, free⟩ := forall_mem_cons.1 free
    refine forall_mem_cons.2 ⟨forall_mem_append.2 ⟨?_, ?_⟩, ih free⟩
    · exact always_compile _ freeTest _ _ _ test
    · exact always_compile _ freeBody _ _ _ body

lemma readBack_cons (some : p.1 ++ p.2 ≠ []) :
    (readBack none p).1 :: (readBack none p).2 = p.1 ++ p.2 := by
  simp only [readBack]
  generalize p.1 ++ p.2 = ds at some
  cases ds with
  | nil => exact absurd rfl some
  | cons d ds => rfl

lemma allClear_readBack (spoken : ∀ p ∈ ps, p.1 ++ p.2 ≠ [])
    (unmarked : ∀ p ∈ ps, AllUnmarked (p.1 ++ p.2)) :
    AllClear (ps.map (readBack none)) := by
  refine forall_mem_map.2 fun p mem => ?_
  have all := unmarked p mem
  rw [← readBack_cons (spoken p mem)] at all
  exact forall_mem_cons.1 all

lemma allClear_compared (value : Draft) (clear : AllClear qs) :
    AllClear (qs.map fun q => (compared (some value) q.1, q.2)) :=
  forall_mem_map.2 fun q mem => ⟨⟨nofun, nofun⟩, (clear q mem).2⟩

lemma flat_readBack (spoken : ∀ p ∈ ps, p.1 ++ p.2 ≠ []) :
    ps.flatMap (fun p => .elsifMark :: (p.1 ++ p.2)) ++ ds =
      marked (ps.map (readBack none)) ds := by
  rw [marked, List.flatMap_map]
  congr 1
  exact List.flatMap_congr fun p mem => by rw [readBack_cons (spoken p mem)]

lemma compileAll_leaves (tokens : List Token) :
    compileAll source (tokens.map .leaf) s = .ok ([], s) := by
  induction tokens with
  | nil => exact compileAll_nil
  | cons token tokens ih => simp_all

lemma Choice.last_compiled (c : Choice) (kind)
    (is : kind ∈ [.elsePart, .caseElsePart]) (free : c.orelse.all (markFree ·.2))
    (orelse : compileAll source (c.orelse.map (·.2)).toList s = .ok (es, s₁)) :
    ∃ ds, compileAll source (c.last kind) s = .ok (ds, s₁) ∧ IsOrelse ds es := by
  unfold Choice.last
  revert free orelse
  rcases c.orelse with _ | ⟨word, body⟩ <;> intro free orelse
  · cases compileAll_nil.symm.trans orelse
    exact ⟨[], compileAll_leaves _, .absent⟩
  · have own := compileAll_single_inv orelse
    have inner : compileAll source [.leaf word, body] s = .ok (es, s₁) := by
      rw [compileAll_leaf]
      exact orelse
    have whole : compile source (.node kind [.leaf word, body]) s = .ok (.elseMark :: es, s₁) := by
      fin_cases is
      all_goals exact compile_of_parts inner rfl
    have both := compileAll_cons whole (compileAll_leaves c.ends)
    rw [append_nil] at both
    exact ⟨_, both, .present (always_compile body free _ _ _ own)⟩

/-- A branch is put together from its alternatives as they are read back. -/
lemma Choice.compiled (c : Choice) (free : c.isFree)
    (sel : CompileSelector source c.selector s v s₁)
    (arms : CompileArms source c.arms s₁ ps s₂)
    (orelse : compileAll source (c.orelse.map (·.2)).toList s₂ = .ok (es, s₃))
    (spoken : ∀ p ∈ ps, p.1 ++ p.2 ≠ []) :
    compile source c.tree s = .ok (chain (ps.map (readBack v)) es, s₃) := by
  rw [isFree, and_eq_true, all_eq_true] at free
  have clear : AllClear (ps.map (readBack none)) := allClear_readBack spoken
    (arms.unmarked fun a mem => Bool.and_eq_true_iff.1 (free.1 a mem))
  have some : ps.map (readBack none) ≠ [] := by
    cases arms
    exact cons_ne_nil _ _
  unfold Choice.tree
  unfold Choice.selector at sel
  split
  case _ is =>
    rw [is] at sel
    cases sel
    obtain ⟨ds, last, ends⟩ := c.last_compiled .elsePart (by decide) free.2 orelse
    obtain ⟨d, made, whole⟩ := branch_marked clear some ends
    rw [← flat_readBack spoken] at made
    rw [whole]
    cases arms with
    | cons test body rest =>
      have alternatives := rest.compiled .elsifPart (by decide)
      refine compile_of_parts
        (compileAll_arm test body (compileAll_append alternatives last)) (single_of ?_)
      simpa using made
  case _ word is =>
    rw [is] at sel
    cases sel
    obtain ⟨ds, last, ends⟩ := c.last_compiled .caseElsePart (by decide) free.2 orelse
    obtain ⟨d, made, whole⟩ := branch_marked clear some ends
    rw [← searchedCase_marked some, ← flat_readBack spoken] at made
    rw [whole]
    refine compile_of_parts ?_ (single_of made)
    rw [compileAll_leaf]
    exact compileAll_append (arms.compiled _ (by decide)) last
  case _ word tree is =>
    rw [is] at sel
    cases sel with
    | @some _ _ value _ own =>
      obtain ⟨ds, last, ends⟩ := c.last_compiled .caseElsePart (by decide) free.2 orelse
      obtain ⟨d, made, whole⟩ :=
        branch_marked (allClear_compared value clear) (by simpa using some) ends
      rw [← selectedCase_marked clear some ends, ← flat_readBack spoken] at made
      have read : chain (ps.map (readBack (Option.some value))) es = [d] := by
        rw [← whole, List.map_map]
        rfl
      rw [read]
      refine compile_of_parts ?_ (single_of made)
      rw [compileAll_leaf]
      exact compileAll_cons own (compileAll_append (arms.compiled _ (by decide)) last)

lemma readBack_single {tests : List Draft} (single : ps.map (·.1) = tests.map ([·])) :
    ps.map (readBack v) = (tests.map (compared v)).zip (ps.map (·.2)) := by
  induction ps generalizing tests with
  | nil => simp
  | cons p ps ih =>
    cases tests with
    | nil => cases single
    | cons test tests =>
      obtain ⟨here, rest⟩ := List.cons.inj single
      have own : p.1 = [test] := here
      rw [map_cons, ih rest, readBack, own]
      rfl

lemma chain_inj (same : chain qs es = chain rs es) (long : qs.length = rs.length) : qs = rs := by
  induction qs generalizing rs with
  | nil => exact (length_eq_zero_iff.1 long.symm).symm
  | cons q qs ih => match rs, long with
    | r :: rs, long =>
      simp only [chain, List.cons.injEq, Draft.branch.injEq, and_true] at same
      obtain ⟨test, body, rest⟩ := same
      rw [ih rest (Nat.succ.inj long), Prod.ext test body]

/-- If each test of a branch compiles to one draft, the branch is the chain of its alternatives with
their own statements, and only then. -/
theorem choice_chain_iff (c : Choice) (free : c.isFree)
    (selector : CompileSelector source c.selector s v s₁)
    (arms : CompileArms source c.arms s₁ ps s₂)
    (orelse : compileAll source (c.orelse.map (·.2)).toList s₂ = .ok (es, s₃)) :
    (∀ tests : List Draft, ps.map (·.1) = tests.map ([·]) → compile source c.tree s =
      .ok (chain ((tests.map (compared v)).zip (ps.map (·.2))) es, s₃)) ∧
    ((∀ p ∈ ps, p.2 ≠ []) → ∀ tests : List Draft, tests.length = ps.length →
      compile source c.tree s = .ok (chain (tests.zip (ps.map (·.2))) es, s₃) →
        ∀ p ∈ ps, p.1.length = 1) := by
  refine ⟨fun tests single => ?_, fun bodies tests long same => ?_⟩
  · have spoken : ∀ p ∈ ps, p.1 ++ p.2 ≠ [] := by
      intro p member
      obtain ⟨test, -, is⟩ := mem_map.1 (single ▸ mem_map_of_mem member)
      simp [← is]
    rw [c.compiled free selector arms orelse spoken, readBack_single single]
  · rw [c.compiled free selector arms orelse fun p member =>
      List.append_ne_nil_of_right_ne_nil _ (bodies p member)] at same
    have pairs : ps.map (readBack v) = tests.zip (ps.map (·.2)) :=
      chain_inj (congrArg Prod.fst (Except.ok.inj same)) (by simp [long])
    have tails : ps.map (fun p => (p.1 ++ p.2).tail) = ps.map (·.2) := by
      have second := congrArg (List.map Prod.snd) pairs
      rw [List.map_map, List.map_snd_zip (by simp [long])] at second
      exact second
    intro p member
    have own : (p.1 ++ p.2).tail = p.2 := List.map_inj_left.1 tails p member
    have size := congrArg List.length own
    have some := length_pos_iff.2 (bodies p member)
    rw [List.length_tail, length_append] at size
    omega

open BlockScript.Core

def sequenceTree (t : Tree Token) : Tree Token := .node .seqOfStatements [t, semicolonTree]

def armOf (test : Tree Token) (statement : Tree Token) : Arm :=
  ⟨⟨.WHEN, "when", {}, 0, 0⟩, test, ⟨.THEN, "then", {}, 0, 0⟩, sequenceTree statement⟩

def selectionOf : Choice :=
  ⟨.simple ⟨.CASE, "case", {}, 0, 0⟩ (numeralTree "1"), armOf (numeralTree "1") nullTree,
    [armOf (numeralTree "2") exitTree],
    some (⟨.ELSE, "else", {}, 0, 0⟩, sequenceTree (assignTree "x" "3")),
    [⟨.END, "end", {}, 0, 0⟩, ⟨.CASE, "case", {}, 0, 0⟩]⟩

lemma compile_one_two (s) : compile "" (numeralTree "1") s = .ok ([(Arith.number 1).draft], s) ∧
    compile "" (numeralTree "2") s = .ok ([(Arith.number 2).draft], s) := by
  constructor <;> with_unfolding_all rfl

theorem selection_chained :
    let s := ({} : Scope).declare "X"
    let compare (n) : Draft :=
      .binary (Arith.number 1).draft (.comparison .eq) (Arith.number n).draft
    compile "" selectionOf.tree s =
      .ok ([.branch (compare 1) [.expr .pass]
        [.branch (compare 2) [.expr .breakLoop] [assignDraft "X" 3]]], s) := by
  intro s compare
  obtain ⟨one, two⟩ := compile_one_two s
  have arms : CompileArms "" selectionOf.arms s
      [([(Arith.number 1).draft], [.expr .pass]),
        ([(Arith.number 2).draft], [.expr .breakLoop])] s :=
    .cons one rfl (.cons two rfl .nil)
  have last : compileAll "" [sequenceTree (assignTree "x" "3")] s =
      .ok ([assignDraft "X" 3], s) := by
    with_unfolding_all rfl
  exact (choice_chain_iff selectionOf (by decide) (.some one) arms last).1
    [(Arith.number 1).draft, (Arith.number 2).draft] rfl

/-- `cursor(select a from b)` -/
def cursorTree : Tree Token :=
  climb [.condition, .expression] (.node .cursorExpression [leafOf .CURSOR "cursor",
    leafOf .LEFT_PAREN "(",
    climb [.subquery, .subqueryBasicElements] (.node .queryBlock [leafOf .SELECT "select",
      climb ([.selectedElement, .selectListElements] ++ sideRungs) (referenceTree "a"),
      .node .fromClause [leafOf .FROM "from",
        climb [.tableRefList, .tableRef, .tableRefAux, .tableRefAuxInternal,
          .dmlTableExpressionClause, .tableviewName, .identifier, .idExpression] (nameTree "b")]]),
    leafOf .RIGHT_PAREN ")"])

def cursorChoice : Choice :=
  ⟨.conditional, armOf cursorTree nullTree, [], none,
    [⟨.END, "end", {}, 0, 0⟩, ⟨.IF, "if", {}, 0, 0⟩]⟩

/-- The table of a query that is used as a test is taken for a statement. -/
theorem table_among_statements :
    let s := ({} : Scope).declare "A"
    let tests := [.call (.ident "A") [], .ident "B"]
    cursorChoice.isFree = true ∧ CompileArms "" cursorChoice.arms s [(tests, [.expr .pass])] s ∧
      compile "" cursorChoice.tree s =
        .ok ([.branch (.call (.ident "A") []) [.ident "B", .expr .pass] []], s) := by
  intro s tests
  refine ⟨by decide, .cons ?_ rfl .nil, ?_⟩
  · with_unfolding_all rfl
  · with_unfolding_all rfl

end BlockScript.Compile
