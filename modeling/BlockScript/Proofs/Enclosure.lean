import BlockScript.Proofs.Occurrence

/-!
Statements in bodies, branches and loops. Whatever a statement compiles to stands in the draft of
each construct that has it among its statements, and so in that of the body around them.
-/

namespace BlockScript.Compile

inductive Speaks : Tree Token → Prop where
  | word (voiced : kind ∈ [.statement, .regularId, .numeric, .quotedString]) :
      Speaks (.node kind children)
  | value (known : (wordConstant? children).isSome) : Speaks (.node .constant children)
  | through (plain : kind ∉ [.body, .anonymousBlock]) (ordinary : kind = .constant ∨ kind ∉ special)
      (member : t ∈ children) (speaks : Speaks t) : Speaks (.node kind children)

abbrev sequenceWith (before : List (Tree Token)) (t : Tree Token) (after : List (Tree Token)) :
    Tree Token :=
  .node .seqOfStatements (before ++ t :: after)

inductive IsLabel : Tree Token → Prop where
  | mk (open₁ : IsLeaf .LESS_THAN_OP l₁) (open₂ : IsLeaf .LESS_THAN_OP l₂)
      (close₁ : IsLeaf .GREATER_THAN_OP r₁) (close₂ : IsLeaf .GREATER_THAN_OP r₂) :
      IsLabel (.node .labelDeclaration
        [l₁, l₂, .node .labelName [.node .idExpression [.node .regularId name]], r₁, r₂])

inductive Repeats : List (Tree Token) → Tree Token → List (Tree Token) → Prop where
  | uncounted (pre before after post)
      (plain : has (pre ++ sequenceWith before t after :: post) .FOR = false) :
      Repeats (pre ++ sequenceWith before t after :: post) t (after ++ post)
  | counting (range pre before after post) (word : IsLeaf .FOR w) :
      Repeats (w :: .node .cursorLoopParam range :: (pre ++ sequenceWith before t after :: post)) t
        (after ++ post)

/-- What may come before an alternative: phrases without alternatives of their own, and alternatives
with a test. -/
def leads : Tree Token → Bool
  | .leaf _ => true
  | .node kind children =>
    tested.contains kind && markFreeAll children || markFree (.node kind children)

/-- A construct has a statement among those that it runs. -/
inductive Encloses : Tree Token → Tree Token → Prop where
  | body (pre before after post) (block : kind ∈ [.body, .anonymousBlock]) :
      Encloses (.node kind (pre ++ sequenceWith before t after :: post)) t
  | handler (pre names before after post) (block : kind ∈ [.body, .anonymousBlock]) :
      Encloses (.node kind
        (pre ++ .node .exceptionHandler (names ++ [sequenceWith before t after]) :: post)) t
  | loop (repeats : Repeats children t behind)
      (unlabelled : hasPhrase children .labelDeclaration = false) :
      Encloses (.node .loopStatement children) t
  | labelled (named : IsLabel label) (repeats : Repeats children t behind) (member : u ∈ behind)
      (speaks : Speaks u) : Encloses (.node .loopStatement (label :: children)) t
  | consequent (pre before after post) (front : markFreeAll pre) (earlier : markFreeAll before) :
      Encloses (.node .ifStatement (pre ++ sequenceWith before t after :: post)) t
  | alternative (pre given before after post)
      (branch : kind ∈ [.ifStatement, .simpleCaseStatement, .searchedCaseStatement])
      (selects : kind = .simpleCaseStatement → ∃ u ∈ pre, Speaks u) (front : pre.all leads)
      (arm : part ∈ alternatives) (test : markFreeAll given) (earlier : markFreeAll before) :
      Encloses (.node kind (pre ++ .node part (given ++ [sequenceWith before t after]) :: post)) t

inductive IsCompound : Tree Token → Tree Token → Prop where
  | plain (is : kind ∈ [.loopStatement, .ifStatement]) :
      IsCompound (.node .statement [.node kind children]) (.node kind children)
  | selection (is : kind ∈ [.simpleCaseStatement, .searchedCaseStatement]) :
      IsCompound (.node .statement [.node .caseStatement [.node kind children]])
        (.node kind children)

/-- A statement is among those of a construct, or of loops and branches among them. -/
inductive Inside (t : Tree Token) : Tree Token → Prop where
  | direct (encloses : Encloses e t) : Inside t e
  | deeper (encloses : Encloses e u) (compound : IsCompound u c) (inside : Inside t c) : Inside t e

variable {src : String} {kind : Nonterminal}

def Kept (source : String) (t : Tree Token) (ds : List Draft) : Prop :=
  ∃ s p s', compile source t s = .ok ([.expr p], s') ∧ StandsIn (.expr p) ds

lemma ensures_concatenation_spoken (spoken : parts ≠ []) :
    Ensures (· ≠ []) (concatenation t parts) := by
  unfold concatenation
  split
  · exact .ok nofun
  · split
    · split
      · exact .ok nofun
      · exact .error
    · exact .ok spoken
    · exact .error

lemma ensures_unary_spoken (spoken : parts ≠ []) : Ensures (· ≠ []) (unary ts parts) := by
  refine .then fun operand => ?_
  split
  · refine .ok ?_
    split
    · exact nofun
    · exact spoken
  · exact .ok spoken

lemma always_assemble_spoken (plain : kind ∉ [.body, .anonymousBlock]) (spoken : parts ≠ []) :
    Always (· ≠ []) (assemble t kind parts) := by
  unfold assemble
  split
  all_goals first | exact absurd (by decide) plain | skip
  all_goals first
    | exact .pure spoken
    | exact .pure fun none => spoken (List.map_eq_nil_iff.1 none)
    | exact .pure (by simp)
    | exact .then fun _ => .pure (by simp)
    | exact .then fun _ => .then fun _ => .pure spoken
    | exact .then fun _ => .then fun _ => .then fun _ => .pure (by simp)
    | skip
  · exact .lift (ensures_concatenation_spoken spoken)
  · exact .lift (ensures_unary_spoken spoken)

lemma always_compileAll_spoken (mem : t ∈ ts) (spoken : Always (· ≠ []) (compile src t)) :
    Always (· ≠ []) (compileAll src ts) := by
  induction ts with
  | nil => exact absurd mem not_mem_nil
  | cons u ts ih =>
    rcases mem_cons.1 mem with rfl | later
    · exact spoken.bind fun parts some => .then fun rest => .pure (by simp [some])
    · exact .then fun parts => (ih later).bind fun rest some => .pure (by simp [some])

lemma Speaks.spoken (speaks : Speaks t) : Always (· ≠ []) (compile src t) := by
  induction speaks with
  | word voiced =>
    fin_cases voiced
    · exact .then fun parts => .then fun part => .pure nofun
    · exact .pure nofun
    · exact .then fun value => .pure nofun
    · exact .then fun value => .pure nofun
  | value known =>
    rw [compile]
    split
    · exact .pure nofun
    case _ unknown =>
      rw [unknown] at known
      cases known
  | through plain ordinary mem _ ih =>
    have parts : Always (· ≠ []) (compileAll src _) := always_compileAll_spoken mem ih
    rcases ordinary with rfl | ordinary
    · rw [compile]
      split
      · exact .pure nofun
      · exact parts
    · rw [compile_node ordinary]
      exact parts.bind fun parts spoken => always_assemble_spoken plain spoken

lemma single_of {x : Except Reject Draft} (made : x = .ok p) :
    (do return [← x] : Compile (List Draft)) s = .ok ([p], s) := by
  rw [made]
  rfl

lemma single_inv {x : Except Reject Draft}
    (whole : (do return [← x] : Compile (List Draft)) s = .ok (ds, s')) :
    ∃ d, x = .ok d ∧ ds = [d] := by
  rcases x with reason | d
  · cases whole
  · cases whole
    exact ⟨d, rfl, rfl⟩

lemma statement_inv (comp : compile src (.node .statement ts) s = .ok (ds, s')) :
    ∃ p rest, compileAll src ts s = .ok (p :: rest, s') ∧ ds = [.expr p] := by
  obtain ⟨parts, s1, inner, whole⟩ := parts_of_compile comp
  cases parts with
  | nil => cases whole
  | cons p rest =>
    cases whole
    exact ⟨p, rest, inner, rfl⟩

lemma compileAll_among (comp : compileAll src (pre ++ t :: post) s = .ok (ds, s')) :
    ∃ front middle back s1 s2, compileAll src pre s = .ok (front, s1) ∧
      compile src t s1 = .ok (middle, s2) ∧ compileAll src post s2 = .ok (back, s') ∧
      ds = front ++ (middle ++ back) := by
  obtain ⟨front, others, s1, before, rest, rfl⟩ := compileAll_append_inv comp
  obtain ⟨middle, back, s2, here, after, rfl⟩ := compileAll_cons_inv rest
  exact ⟨front, middle, back, s1, s2, before, here, after, rfl⟩

lemma statement_among (comp : compileAll src
      (pre ++ sequenceWith before (.node .statement ts) after :: post) s = .ok (ds, s')) :
    ∃ front p back s1 s2, compile src (.node .statement ts) s1 = .ok ([.expr p], s2) ∧
      compileAll src (after ++ post) s2 = .ok (back, s') ∧ ds = front ++ .expr p :: back ∧
      (markFreeAll pre → markFreeAll before → AllUnmarked front) := by
  obtain ⟨front, middle, back, s1, s4, first, here, last, rfl⟩ := compileAll_among comp
  obtain ⟨parts, _, inner, whole⟩ := parts_of_compile here
  cases whole
  obtain ⟨early, own, late, s2, s3, earlier, stmt, later, rfl⟩ := compileAll_among inner
  obtain ⟨p, rest, -, rfl⟩ := statement_inv stmt
  refine ⟨front ++ early, p, late ++ back, s2, s3, stmt, compileAll_append later last, by simp,
    fun free own d mem => ?_⟩
  exact (mem_append.1 mem).elim (always_compileAll pre free s front s1 first d)
    (always_compileAll before own s1 early s2 earlier d)

lemma mem_unnamed (mem : .expr p ∈ parts) : .expr p ∈ unnamed parts := by
  unfold unnamed
  split
  case _ label last =>
    obtain ⟨front, rfl⟩ := List.getLast?_eq_some_iff.1 last
    rw [List.dropLast_concat]
    rcases mem_append.1 mem with inside | final
    · exact inside
    · exact absurd (mem_singleton.1 final) nofun
  · exact mem

lemma body_keeps (mem : .expr p ∈ parts) : StandsIn (.expr p) (Compile.body parts) := by
  have own : .expr p ∈ unnamed (parts.filter (!·.isHandler)) :=
    mem_unnamed (mem_filter.2 ⟨mem, rfl⟩)
  rw [body_eq]
  split
  · exact .here own
  · exact .inside mem_cons_self (.here (mem_append_left _ own))

lemma body_keeps_handler (mem : .handler exception ds ∈ parts) :
    StandsIn (.handler exception ds) (Compile.body parts) := by
  have own : .handler exception ds ∈ parts.filter Draft.isHandler := mem_filter.2 ⟨mem, rfl⟩
  rw [body_eq, if_neg (by simpa using List.ne_nil_of_mem own)]
  exact .inside mem_cons_self (.here (mem_append_right _ own))

lemma ensures_counting :
    Ensures (fun d => ∃ target range, d = Draft.forLoop target range []) (countingLoop parts) := by
  unfold countingLoop
  split
  · exact .ok ⟨_, _, rfl⟩
  · exact .error

lemma counting_inv (comp : compile src (.node .cursorLoopParam ts) s = .ok (ds, s')) :
    ∃ target range, ds = [.forLoop target range []] := by
  have shape : Always (fun ds => ∃ target range, ds = [Draft.forLoop target range []])
      (compile src (.node .cursorLoopParam ts)) := by
    rw [compile]
    split
    · exact .then fun _ => .then fun parts => (Always.lift ensures_counting).bind
        fun loop is => .pure (by simpa using is)
    · exact .error
  exact shape s ds s' comp

lemma Repeats.among (repeats : Repeats children (.node .statement ts) behind)
    (comp : compileAll src children s = .ok (ds, s')) :
    ∃ front p back s1 s2, compile src (.node .statement ts) s1 = .ok ([.expr p], s2) ∧
      compileAll src behind s2 = .ok (back, s') ∧ ds = front ++ .expr p :: back ∧
      (has children .FOR = true → ∃ target range body rest,
        front = .forLoop target range body :: rest) := by
  cases repeats with
  | uncounted pre before after post plain =>
    obtain ⟨front, p, back, s1, s2, stmt, later, rfl, -⟩ := statement_among comp
    exact ⟨front, p, back, s1, s2, stmt, later, rfl, fun counts => absurd counts (by simp [plain])⟩
  | counting range pre before after post word =>
    rw [word.skip] at comp
    obtain ⟨loop, others, s0, header, rest, rfl⟩ := compileAll_cons_inv comp
    obtain ⟨target, range, rfl⟩ := counting_inv header
    obtain ⟨front, p, back, s1, s2, stmt, later, rfl, -⟩ := statement_among rest
    exact ⟨.forLoop target range [] :: front, p, back, s1, s2, stmt, later, rfl,
      fun _ => ⟨target, range, [], front, rfl⟩⟩

lemma loop_keeps (repeats : Repeats children (.node .statement ts) behind)
    (unlabelled : hasPhrase children .labelDeclaration = false)
    (comp : compile src (.node .loopStatement children) s = .ok (ds, s')) :
    Kept src (.node .statement ts) ds := by
  obtain ⟨parts, s0, inner, whole⟩ := parts_of_compile comp
  obtain ⟨front, p, back, s1, s2, stmt, -, rfl, counts⟩ := repeats.among inner
  obtain ⟨d, made, rfl⟩ := single_inv whole
  rw [loop_eq, Compile.unlabelled, Tree.children, unlabelled] at made
  refine ⟨s1, p, s2, stmt, .inside mem_cons_self (loopOf_keeps (by simp) ?_ made)⟩
  intro counted
  obtain ⟨target, range, body, rest, rfl⟩ := counts counted
  exact ⟨target, range, body, rest ++ .expr p :: back, rfl, by simp⟩

lemma compile_label : compile src (.node .labelName [.node .idExpression [.node .regularId ts]]) s =
    .ok ([.ident (Tree.node .regularId ts).capitals], s) := by
  have word : compile src (.node .regularId ts) s =
      .ok ([.ident (Tree.node .regularId ts).capitals], s) := by
    rfl
  exact compile_of_parts (compileAll_single (compile_of_parts (compileAll_single word) rfl)) rfl

lemma IsLabel.name (label : IsLabel t) : ∃ name, compile src t s = .ok ([.ident name], s) := by
  obtain @⟨_, _, _, _, name, open1, open2, close1, close2⟩ := label
  refine ⟨(Tree.node .regularId name).capitals, compile_of_parts ?_ rfl⟩
  rw [open1.skip, open2.skip]
  refine compileAll_cons compile_label ?_
  rw [close1.skip, close2.skip, compileAll_nil]

lemma IsLabel.declares (label : IsLabel t) : ∃ us, t = .node .labelDeclaration us := by
  cases label
  exact ⟨_, rfl⟩

lemma dropFinal_of_ne_nil (some : parts ≠ []) : dropFinal parts = .ok parts.dropLast := by
  cases parts with
  | nil => exact absurd rfl some
  | cons part parts => rfl

lemma labelled_keeps (named : IsLabel t) (repeats : Repeats children (.node .statement ts) behind)
    (mem : u ∈ behind) (speaks : Speaks u)
    (comp : compile src (.node .loopStatement (t :: children)) s = .ok (ds, s')) :
    Kept src (.node .statement ts) ds := by
  obtain ⟨parts, s0, inner, whole⟩ := parts_of_compile comp
  obtain ⟨label, rest, s1, first, later, rfl⟩ := compileAll_cons_inv inner
  obtain ⟨name, is⟩ : ∃ name, compile src t s = .ok ([.ident name], s) := named.name
  obtain ⟨us, rfl⟩ := named.declares
  rw [is] at first
  cases first
  obtain ⟨front, p, back, s1, s2, stmt, rest, rfl, counts⟩ := repeats.among later
  have spoken : back ≠ [] := always_compileAll_spoken mem speaks.spoken s2 back _ rest
  obtain ⟨d, made, rfl⟩ := single_inv whole
  have cut : Compile.unlabelled (.node .labelDeclaration us :: children)
      ([.ident name] ++ (front ++ .expr p :: back)) = .ok (front ++ .expr p :: back.dropLast) := by
    change dropFinal (front ++ .expr p :: back) = _
    rw [dropFinal_of_ne_nil (by simp), List.dropLast_append_of_ne_nil (cons_ne_nil _ _),
      List.dropLast_cons_of_ne_nil spoken]
  rw [loop_eq, Tree.children, cut] at made
  refine ⟨s1, p, s2, stmt, .inside mem_cons_self (loopOf_keeps (by simp) ?_ made)⟩
  intro counted
  obtain ⟨target, range, body, rest, rfl⟩ := counts (by simpa using counted)
  exact ⟨target, range, body, rest ++ .expr p :: back.dropLast, rfl, by simp⟩

lemma branching_not_special :
    ∀ kind ∈ [.ifStatement, .simpleCaseStatement, .searchedCaseStatement], kind ∉ special := by
  decide

lemma alternatives_not_special : ∀ kind ∈ alternatives, kind ∉ special := by decide

lemma alternative_inv (arm : kind ∈ alternatives)
    (comp : compile src (.node kind ts) s = .ok (ds, s')) :
    ∃ mark parts, compileAll src ts s = .ok (parts, s') ∧ ds = mark :: parts ∧
      (mark = .elseMark ∧ kind ∉ tested ∨ mark = .elsifMark) := by
  obtain ⟨parts, s1, inner, whole⟩ := parts_of_compile comp (alternatives_not_special kind arm)
  fin_cases arm
  all_goals cases whole
  iterate 3 exact ⟨.elsifMark, parts, inner, rfl, .inr rfl⟩
  · exact ⟨.elseMark, parts, inner, rfl, .inl ⟨rfl, by decide⟩⟩
  · exact ⟨.elseMark, parts, inner, rfl, .inl ⟨rfl, by decide⟩⟩

lemma tested_subset : ∀ kind ∈ tested, kind ∈ alternatives := by decide

lemma leads_plain (leading : leads t) (comp : compile src t s = .ok (ds, s')) :
    ∀ part ∈ ds, part ≠ .elseMark := by
  unfold leads at leading
  split at leading
  · cases comp
    simp
  case _ kind ts =>
    rcases Bool.or_eq_true_iff.1 leading with arm | free
    · rw [and_eq_true, contains_iff_mem] at arm
      obtain ⟨mark, parts, inner, rfl, is⟩ := alternative_inv (tested_subset kind arm.1) comp
      intro part mem
      rcases mem_cons.1 mem with rfl | later
      · grind
      · exact (always_compileAll ts arm.2 s parts s' inner part later).2
    · exact fun part mem => (always_compile _ free s ds s' comp part mem).2

lemma all_leads_plain (leading : ts.all leads)
    (comp : compileAll src ts s = .ok (ds, s')) : ∀ part ∈ ds, part ≠ .elseMark := by
  induction ts generalizing s ds with
  | nil => simp_all
  | cons t ts ih =>
    rw [List.all_cons, and_eq_true] at leading
    obtain ⟨here, later, s1, first, rest, rfl⟩ := compileAll_cons_inv comp
    intro part mem
    rcases mem_append.1 mem with own | others
    · exact leads_plain leading.1 first part own
    · exact ih leading.2 rest part others

lemma consequent_keeps (front : markFreeAll pre) (earlier : markFreeAll before)
    (comp : compile src (.node .ifStatement
      (pre ++ sequenceWith before (.node .statement ts) after :: post)) s = .ok (ds, s')) :
    Kept src (.node .statement ts) ds := by
  obtain ⟨parts, s0, inner, whole⟩ := parts_of_compile comp
  obtain ⟨tests, p, back, s1, s2, stmt, -, rfl, unmarked⟩ := statement_among inner
  obtain ⟨d, made, rfl⟩ := single_inv whole
  exact ⟨s1, p, s2, stmt, .inside mem_cons_self
    (branch_keeps ⟨nofun, nofun⟩ (passable_of_unmarked (unmarked front earlier)) made)⟩

lemma alternative_keeps
    (branch : kind ∈ [.ifStatement, .simpleCaseStatement, .searchedCaseStatement])
    (selects : kind = .simpleCaseStatement → ∃ u ∈ pre, Speaks u) (front : pre.all leads)
    (arm : part ∈ alternatives) (test : markFreeAll given) (earlier : markFreeAll before)
    (comp : compile src (.node kind
      (pre ++ .node part (given ++ [sequenceWith before (.node .statement ts) after]) :: post)) s =
        .ok (ds, s')) :
    Kept src (.node .statement ts) ds := by
  obtain ⟨parts, s0, inner, whole⟩ := parts_of_compile comp (branching_not_special kind branch)
  obtain ⟨first, own, back, s1, s2, leading, here, -, rfl⟩ := compileAll_among inner
  obtain ⟨mark, parts, within, rfl, is⟩ := alternative_inv arm here
  obtain ⟨tests, p, late, s3, s4, stmt, -, rfl, unmarked⟩ := statement_among within
  have passable : Passable (first ++ mark :: tests) := by
    refine .append (all_leads_plain front leading) ?_
    rcases is with ⟨rfl, -⟩ | rfl
    · exact unmarked test earlier
    · change Passable tests
      exact passable_of_unmarked (unmarked test earlier)
  have spelled : first ++ ((mark :: (tests ++ .expr p :: late)) ++ back) =
      (first ++ mark :: tests) ++ .expr p :: (late ++ back) := by
    simp
  rw [spelled] at whole
  have unmarkedP : IsUnmarked (.expr p) := ⟨nofun, nofun⟩
  fin_cases branch
  all_goals
    obtain ⟨d, made, rfl⟩ := single_inv whole
    refine ⟨s3, p, s4, stmt, .inside mem_cons_self ?_⟩
  · exact branch_keeps unmarkedP passable made
  · obtain ⟨u, mem, speaks⟩ := selects rfl
    have spoken : first ≠ [] := always_compileAll_spoken mem speaks.spoken s first s1 leading
    have behind : 2 ≤ (first ++ mark :: tests).length := by
      have := length_pos_iff.2 spoken
      grind
    exact selectedCase_keeps unmarkedP passable behind made
  · exact searchedCase_keeps unmarkedP passable (by simp) made

lemma body_not_special : ∀ kind ∈ [.body, .anonymousBlock], kind ∉ special := by decide

section

variable (block : kind ∈ [.body, .anonymousBlock])
include block

lemma body_inv (comp : compile src (.node kind ts) s = .ok (ds, s')) :
    ∃ parts, compileAll src ts s = .ok (parts, s') ∧ ds = Compile.body parts := by
  obtain ⟨parts, s0, inner, whole⟩ := parts_of_compile comp (body_not_special kind block)
  fin_cases block
  all_goals
    cases whole
    exact ⟨parts, inner, rfl⟩

lemma sequence_keeps
    (comp : compile src (.node kind (pre ++ sequenceWith before (.node .statement ts) after ::
      post)) s = .ok (ds, s')) :
    Kept src (.node .statement ts) ds := by
  obtain ⟨parts, inner, rfl⟩ := body_inv block comp
  obtain ⟨front, p, back, s1, s2, stmt, -, rfl, -⟩ := statement_among inner
  exact ⟨s1, p, s2, stmt, body_keeps (by simp)⟩

lemma handler_keeps (comp : compile src (.node kind (pre ++ .node .exceptionHandler
      (given ++ [sequenceWith before (.node .statement ts) after]) :: post)) s = .ok (ds, s')) :
    Kept src (.node .statement ts) ds := by
  obtain ⟨parts, inner, rfl⟩ := body_inv block comp
  obtain ⟨front, own, back, s1, s2, -, here, -, rfl⟩ := compileAll_among inner
  obtain ⟨parts, s0, within, whole⟩ := parts_of_compile here
  obtain ⟨names, p, late, s3, s4, stmt, -, rfl, -⟩ := statement_among within
  obtain ⟨d, made, rfl⟩ := single_inv whole
  obtain ⟨⟨exception, statements⟩, split, rest⟩ := steps_of_bind made
  cases rest
  have mem : .expr p ∈ (Draft.handler exception statements).parts := by
    rw [Draft.parts, ← first_inv split]
    simp
  exact ⟨s3, p, s4, stmt, StandsIn.trans (.here mem) (body_keeps_handler (by simp))⟩

end

lemma Encloses.keeps (encloses : Encloses e (.node .statement ts))
    (comp : compile src e s = .ok (ds, s')) : Kept src (.node .statement ts) ds := by
  cases encloses with
  | body pre before after post block => exact sequence_keeps block comp
  | handler pre names before after post block => exact handler_keeps block comp
  | loop repeats unlabelled => exact loop_keeps repeats unlabelled comp
  | labelled named repeats mem speaks => exact labelled_keeps named repeats mem speaks comp
  | consequent pre before after post front earlier => exact consequent_keeps front earlier comp
  | alternative pre given before after post branch selects front arm test earlier =>
    exact alternative_keeps branch selects front arm test earlier comp

lemma compound_single (is : kind ∈ [.loopStatement, .ifStatement, .simpleCaseStatement,
      .searchedCaseStatement]) (comp : compile src (.node kind ts) s = .ok (p :: parts, s')) :
    parts = [] := by
  have ordinary : ∀ kind ∈ [.loopStatement, .ifStatement, .simpleCaseStatement,
      .searchedCaseStatement], kind ∉ special := by decide
  obtain ⟨inner, s1, -, whole⟩ := parts_of_compile comp (ordinary kind is)
  fin_cases is
  all_goals
    obtain ⟨d, -, made⟩ := single_inv whole
    exact (List.cons.inj made).2

lemma IsCompound.inv (compound : IsCompound u c) (comp : compile src u s = .ok ([.expr p], s')) :
    compile src c s = .ok ([p], s') := by
  cases compound
  all_goals
    obtain ⟨q, rest, inner, made⟩ := statement_inv comp
    cases made
  case plain is =>
    have only := compileAll_single_inv inner
    rw [only, compound_single (mem_append_left _ is) only]
  case selection is =>
    obtain ⟨parts, s1, within, whole⟩ := parts_of_compile (compileAll_single_inv inner)
    cases whole
    have only := compileAll_single_inv within
    rw [only, compound_single (mem_append_right [_, _] is) only]

lemma IsCompound.statement (compound : IsCompound u c) : ∃ us, u = .node .statement us := by
  cases compound <;> exact ⟨_, rfl⟩

lemma Inside.keeps (inside : Inside (.node .statement ts) e)
    (comp : compile src e s = .ok (ds, s')) : Kept src (.node .statement ts) ds := by
  induction inside generalizing s ds s' with
  | direct encloses => exact encloses.keeps comp
  | deeper encloses compound _ ih =>
    obtain ⟨us, rfl⟩ := compound.statement
    obtain ⟨s1, p, s2, middle, outer⟩ := encloses.keeps comp
    obtain ⟨s3, q, s4, stmt, inner⟩ := ih (compound.inv middle)
    exact ⟨s3, q, s4, stmt, inner.trans outer⟩

end BlockScript.Compile
