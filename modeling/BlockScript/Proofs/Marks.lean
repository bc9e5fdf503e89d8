import BlockScript.Proofs.Branches

/-!
Where drafts come from. A phrase makes drafts and may hand on those of its parts.
-/

namespace BlockScript.Compile

def Ensures (P : α → Prop) (x : Except Reject α) : Prop := ∀ a, x = .ok a → P a

def Always (P : α → Prop) (x : Compile α) : Prop := ∀ s a s', x s = .ok (a, s') → P a

section
variable {β : Type}

lemma Ensures.bind (first : Ensures Q x) (next : ∀ a, Q a → Ensures P (f a)) :
    Ensures P (x >>= f) := by
  intro b given
  rcases x with reason | a
  · cases given
  · exact next a (first a rfl) b given

lemma Ensures.then (next : ∀ a, Ensures P (f a)) : Ensures P (x >>= f) := by
  intro b given
  rcases x with reason | a
  · cases given
  · exact next a b given

lemma Ensures.ok (holds : P b) : Ensures P (.ok b) := by
  rintro _ ⟨⟩
  exact holds

lemma Ensures.error : Ensures P (.error e) := nofun

lemma Always.pure (holds : P b) : Always P (pure b : Compile β) := by
  rintro s _ s' ⟨⟩
  exact holds

lemma Always.bind (first : Always Q x) (next : ∀ a, Q a → Always P (f a)) : Always P (x >>= f) := by
  intro s b s'' given
  simp only [Bind.bind, StateT.bind] at given
  rcases here : x s with reason | ⟨a, s'⟩
  · rw [here] at given
    cases given
  · rw [here] at given
    exact next a (first s a s' here) s' b s'' given

lemma Always.then (next : ∀ a, Always P (f a)) : Always P (x >>= f) :=
  Always.bind (fun _ _ _ _ => trivial) fun a _ => next a

lemma Always.lift (holds : Ensures P x) : Always P (liftM x : Compile β) := by
  intro s b s' given
  rcases x with reason | a
  · cases given
  · cases given
    exact holds b rfl

lemma Always.error : Always P (throw e : Compile β) := nofun
end

def tested : List Nonterminal := [.elsifPart, .simpleCaseWhenPart, .searchedCaseWhenPart]

def alternatives : List Nonterminal :=
  [.elsifPart, .simpleCaseWhenPart, .searchedCaseWhenPart, .elsePart, .caseElsePart]

def closed : List Nonterminal :=
  [.statement, .ifStatement, .simpleCaseStatement, .searchedCaseStatement]

def codeKinds : List Nonterminal :=
  [.statement, .exceptionHandler, .variableDeclaration, .typeDeclaration, .subtypeDeclaration,
    .cursorDeclaration, .procedureBody, .functionBody, .procedureSpec, .functionSpec,
    .pragmaDeclaration, .regularId]

def sealing : List Nonterminal := closed ++ codeKinds

def makes (kind : Nonterminal) : Draft → Bool
  | .elsifMark => tested.contains kind
  | .elseMark => [.elsePart, .caseElsePart].contains kind
  | .parameter _ => kind == .parameter
  | .typeMark _ => kind == .typeSpec
  | .expr _ => [.statement, .unitStatement].contains kind
  | _ => true

def IsPlain (d : Draft) : Prop := ∀ kind, makes kind d = true

inductive ComesFrom (d : Draft) : Tree Token → Prop where
  | made (makes : makes kind d = true) : ComesFrom d (.node kind children)
  | handed (hands : kind ∉ sealing) (member : t ∈ children) (comes : ComesFrom d t) :
      ComesFrom d (.node kind children)

variable {Q : Draft → Prop} {parts : List Draft}

lemma forall_single {P : α → Prop} {a : α} (holds : P a) : ∀ b ∈ [a], P b := by
  simpa using holds

lemma Always.single (given : Ensures Q x) : Always (∀ d ∈ ·, Q d) (do return [← x]) :=
  (Always.lift given).bind fun _ holds => .pure (forall_single holds)

lemma Always.one (given : Always Q x) : Always (∀ d ∈ ·, Q d) (do return [← x]) :=
  given.bind fun _ holds => .pure (forall_single holds)

lemma plain_resolve (s : Scope) (name) : IsPlain (s.resolve name) := by
  intro kind
  unfold Scope.resolve
  split
  · rfl
  · split
    · rfl
    · split <;> rfl

lemma plain_resolvePath (s : Scope) (names) : Ensures IsPlain (s.resolvePath names) := by
  cases names with
  | nil => exact nofun
  | cons root path =>
    refine .ok ?_
    rcases List.eq_nil_or_concat path with rfl | ⟨front, last, rfl⟩
    · exact plain_resolve s root
    · rw [List.concat_eq_append, List.foldl_append]
      exact fun _ => rfl

lemma plain_routineName : Always IsPlain (routineName parts) := by
  refine .then fun part => .then fun root => .then fun scope => .then fun used => .then fun _ => ?_
  split
  · exact .pure fun _ => rfl
  · exact .pure (plain_resolve scope root)

lemma plain_jump (plain : IsPlain d) : Ensures IsPlain (jump d children parts) := by
  unfold jump
  split
  · exact .then fun test => .ok fun _ => rfl
  · exact .ok plain

lemma plain_countingLoop : Ensures IsPlain (countingLoop parts) := by
  unfold countingLoop
  split
  · exact .ok fun _ => rfl
  · exact .error

lemma plain_branch : Ensures IsPlain (branch parts) := .then fun _ => .ok fun _ => rfl

lemma plain_selectedCase : Ensures IsPlain (selectedCase parts) :=
  .then fun _ => .then fun _ => .then fun _ => plain_branch

lemma plain_openCursor : Ensures IsPlain (openCursor parts) := by
  refine .then fun part => ?_
  split
  · exact .ok fun _ => rfl
  · exact .error

lemma plain_subtypeOf : Ensures IsPlain (subtypeOf parts) := by
  refine .then fun split => .then fun type => ?_
  split
  · exact .ok fun _ => rfl
  · exact .error

lemma plain_typeDeclaration : Always IsPlain (typeDeclaration children parts) := by
  refine .then fun split => .then fun name => .then fun _ => ?_
  split
  · split
    · exact .then fun _ => .pure fun _ => rfl
    · exact .then fun _ => .pure fun _ => rfl
  · split
    · exact .then fun _ => .pure fun _ => rfl
    · exact .error

lemma plain_stringFunction : Ensures IsPlain (stringFunction t parts) := by
  unfold stringFunction
  dsimp only
  repeat' split
  all_goals first | exact .ok fun _ => rfl | exact .error

lemma plain_transaction : Ensures IsPlain (transaction t) := by
  unfold transaction
  repeat' split
  all_goals first | exact .ok fun _ => rfl | exact .error

lemma plain_quotedString : Ensures IsPlain (quotedString children) := by
  unfold quotedString
  split
  · split
    · exact .ok fun _ => rfl
    · exact .error
  · exact .error

lemma plain_cursor : Ensures (fun named => IsPlain named.2) (cursor parameters parts) := by
  refine .then fun split => .then fun id => ?_
  split
  · exact .error
  · exact .ok fun _ => rfl

lemma plain_routine : Ensures (fun named => IsPlain named.2) (routine parts) := by
  refine .then fun split => ?_
  dsimp only
  split
  · exact .error
  · exact .then fun id => .ok fun _ => rfl

lemma plain_standalone : Ensures (fun named => IsPlain named.2) (standalone parts) :=
  .then fun _ => .then fun _ => .ok fun _ => rfl

lemma plain_specification : Ensures (fun named => IsPlain named.1) (specification parts) :=
  .then fun _ => .then fun _ => .then fun _ => .ok fun _ => rfl

lemma plain_wordConstant (is : wordConstant? children = some d) : IsPlain d := by
  unfold wordConstant? at is
  split at is
  · cases is
    exact fun _ => rfl
  · split at is
    · cases is
      exact fun _ => rfl
    · split at is
      · cases is
        exact fun _ => rfl
      · cases is

section

variable (plain : ∀ d, IsPlain d → Q d) (given : ∀ d ∈ parts, Q d)
include given

lemma given_head : Ensures Q (head parts) := by
  cases parts with
  | nil => exact nofun
  | cons d parts => exact .ok (given d mem_cons_self)

lemma given_first : Ensures (fun split => Q split.1 ∧ ∀ d ∈ split.2, Q d) (first parts) := by
  cases parts with
  | nil => exact nofun
  | cons d parts => exact .ok (forall_mem_cons.1 given)

lemma given_unlabelled : Ensures (∀ d ∈ ·, Q d) (unlabelled children parts) := by
  unfold unlabelled
  split
  · refine (given_first given).bind fun split later => ?_
    unfold dropFinal
    split
    · exact .error
    · exact .ok fun d mem => later.2 d (List.dropLast_subset _ mem)
  · exact .ok given

include plain

lemma given_loop : Ensures Q (loop children parts) := by
  rw [loop_eq]
  refine (given_unlabelled given).bind fun rest given => ?_
  unfold loopOf
  split
  · exact .then fun split => .ok (plain _ fun _ => rfl)
  · split
    · refine (given_first given).bind fun split given => .ok ?_
      unfold withBody
      split
      · exact plain _ fun _ => rfl
      · exact given.1
    · exact .ok (plain _ fun _ => rfl)

lemma given_relational : Ensures Q (relational parts) := by
  unfold relational
  split
  · exact .ok (plain _ fun _ => rfl)
  · exact .ok (given _ mem_cons_self)
  · exact .error

lemma given_logical : Ensures Q (logical t parts) := by
  refine (given_head given).bind fun operand holds => ?_
  dsimp only
  split
  · refine .ok ?_
    split
    · exact plain _ fun _ => rfl
    · split
      · exact plain _ fun _ => rfl
      · exact holds
  · split
    · exact .ok (plain _ fun _ => rfl)
    · split
      · exact .ok (plain _ fun _ => rfl)
      · exact .error

lemma given_concatenation : Ensures (∀ d ∈ ·, Q d) (concatenation t parts) := by
  unfold concatenation
  split
  · exact .ok (forall_single (plain _ fun _ => rfl))
  · split
    · split
      · exact .ok (forall_single (plain _ fun _ => rfl))
      · exact .error
    · exact .ok given
    · exact .error

lemma given_unary : Ensures (∀ d ∈ ·, Q d) (unary children parts) := by
  refine .then fun operand => ?_
  split
  · refine .ok ?_
    split
    · exact forall_single (plain _ fun _ => rfl)
    · exact given
  · exact .ok given

lemma given_element : Always Q (element parts) := by
  refine (Always.lift (given_first given)).bind fun split given => ?_
  refine .then fun scope => .then fun used => .then fun _ => ?_
  split
  · exact .pure given.1
  · exact .then fun name => .pure (plain _ fun _ => rfl)
  · exact .error

lemma given_body : ∀ d ∈ body parts, Q d := by
  rw [body_eq]
  split
  · intro d mem
    have inside : d ∈ parts.filter (!·.isHandler) := by
      unfold unnamed at mem
      split at mem
      · exact List.dropLast_subset _ mem
      · exact mem
    exact given d (mem_filter.1 inside).1
  · exact forall_single (plain _ fun _ => rfl)

end

lemma always_assemble (ordinary : kind ∈ sealing → kind ∉ special) (given : ∀ d ∈ parts, Q d) :
    Always (∀ d ∈ ·, makes kind d = true ∨ Q d ∧ kind ∉ sealing) (assemble t kind parts) := by
  have plain : ∀ d, IsPlain d → makes kind d = true ∨ Q d ∧ kind ∉ sealing :=
    fun d is => .inl (is kind)
  have handed : kind ∉ sealing → ∀ d ∈ parts, makes kind d = true ∨ Q d ∧ kind ∉ sealing :=
    fun hands d mem => .inr ⟨given d mem, hands⟩
  have single : ∀ {x : Except Reject Draft}, Ensures IsPlain x →
      Always (∀ d ∈ ·, makes kind d = true ∨ Q d ∧ kind ∉ sealing) (do return [← x]) :=
    fun new => .single fun d is => plain d (new d is)
  have one : ∀ {x : Compile Draft}, Always IsPlain x →
      Always (∀ d ∈ ·, makes kind d = true ∨ Q d ∧ kind ∉ sealing) (do return [← x]) :=
    fun new => .one fun s d s' is => plain d (new s d s' is)
  unfold assemble
  split
  all_goals first | (replace handed := handed (by decide)) | skip
  all_goals with_reducible first
    | exact .pure handed
    | exact .pure (given_body plain handed)
    | refine .pure (forall_single (Or.inl ?_))
    | refine .pure (forall_mem_cons.2 ⟨Or.inl ?_, handed⟩)
    | exact .lift (given_concatenation plain handed)
    | exact .lift (given_unary plain handed)
    | exact .single (given_loop plain handed)
    | exact .single (given_relational plain handed)
    | exact .single (given_logical plain handed)
    | exact .one (given_element plain handed)
    | exact single plain_countingLoop
    | refine single (plain_jump ?_)
    | exact single plain_selectedCase
    | exact single (.then fun _ => plain_branch)
    | exact single plain_branch
    | exact single plain_openCursor
    | exact single plain_subtypeOf
    | exact single plain_stringFunction
    | refine single (.then fun _ => .ok ?_)
    | exact one plain_routineName
    | exact one plain_typeDeclaration
    | refine one (.then fun _ => .then fun _ => .pure ?_)
    | refine one (.then fun _ => .then fun _ => .then fun _ => .pure ?_)
    | exact .then fun _ => .then fun _ => .pure handed
    | skip
  all_goals first | rfl | exact fun _ => rfl | skip
  · refine .pure fun d mem => .inl ?_
    obtain ⟨part, -, rfl⟩ := mem_map.1 mem
    unfold Draft.asStatement
    cases part <;> rfl
  · refine .single ?_
    unfold parameter
    split
    · exact .ok (.inl rfl)
    · exact .error
  · exact .then fun names => .then fun scope => single (plain_resolvePath scope names)
  · exact .then fun part => .pure (forall_single (.inl rfl))
  · refine .pure (handed fun mem => ?_)
    have absent := ordinary mem
    unfold sealing closed codeKinds at mem
    fin_cases mem <;> contradiction

lemma always_special (is : kind ∈ special)
    (given : Always (∀ d ∈ ·, Q d) (compileAll src children)) :
    Always (∀ d ∈ ·, makes kind d = true ∨ Q d ∧ kind ∉ sealing)
      (compile src (.node kind children)) := by
  have single : ∀ {d}, IsPlain d → ∀ e ∈ [d], makes kind e = true ∨ Q e ∧ kind ∉ sealing :=
    fun plain => forall_single (.inl (plain kind))
  unfold special at is
  fin_cases is
  all_goals rw [compile]
  all_goals repeat' split
  all_goals with_reducible first
    | exact .pure (List.forall_mem_nil _)
    | exact Always.error
    | exact .pure (single (plain_wordConstant (by assumption)))
    | refine .pure (forall_single (Or.inl ?_))
    | exact (Always.lift plain_quotedString).bind fun _ plain => .pure (single plain)
    | exact (Always.lift plain_transaction).bind fun _ plain => .pure (single plain)
    | exact .bind (.then fun scope => .lift (plain_resolvePath scope _)) fun _ plain =>
        .pure (single plain)
    | refine .then fun _ => .pure (forall_single (Or.inl ?_))
    | refine .then fun _ => .then fun _ => .pure (forall_single (Or.inl ?_))
    | refine .then fun _ => .then fun _ => .then fun _ => .pure (forall_single (Or.inl ?_))
    | exact .then fun _ => .then fun _ => .then fun _ =>
        (Always.lift plain_cursor).bind fun _ plain => .then fun _ => .pure (single plain)
    | exact .then fun _ => .then fun _ =>
        (Always.lift plain_routine).bind fun _ plain => .then fun _ => .pure (single plain)
    | exact .then fun _ => .then fun _ =>
        (Always.lift plain_standalone).bind fun _ plain => .then fun _ => .pure (single plain)
    | exact .then fun _ => .then fun _ =>
        (Always.lift plain_specification).bind fun _ plain => .then fun _ => .pure (single plain)
    | exact given.bind fun _ given => always_assemble (by decide) given
    | exact .then fun _ => given.bind fun _ given => always_assemble (by decide) given
    | skip
  all_goals first | rfl | exact .error | skip
  · exact .then fun _ => .then fun _ =>
      .pure (forall_mem_cons.2 ⟨.inl rfl, forall_mem_map.2 fun _ _ => .inl rfl⟩)
  · exact fun s ds s' comp d mem => .inr ⟨given s ds s' comp d mem, by decide⟩

mutual
theorem always_comes (t) : Always (∀ d ∈ ·, ComesFrom d t) (compile src t) := by
  match t with
  | .leaf _ => exact .pure nofun
  | .node kind children =>
    have step : Always (∀ d ∈ ·, makes kind d = true ∨ (∃ t ∈ children, ComesFrom d t) ∧
        kind ∉ sealing) (compile src (.node kind children)) := by
      by_cases is : kind ∈ special
      · exact always_special is (always_comesAll children)
      · rw [compile_node is]
        exact (always_comesAll children).bind fun parts given => always_assemble (fun _ => is) given
    intro s ds s' comp d mem
    rcases step s ds s' comp d mem with made | ⟨⟨t, inside, comes⟩, hands⟩
    · exact .made made
    · exact .handed hands inside comes

theorem always_comesAll (ts) : Always (∀ d ∈ ·, ∃ t ∈ ts, ComesFrom d t) (compileAll src ts) := by
  match ts with
  | [] => exact .pure nofun
  | t :: ts =>
    exact (always_comes t).bind fun parts own => (always_comesAll ts).bind fun rest others =>
      .pure (forall_mem_append.2 ⟨fun d mem => ⟨t, mem_cons_self, own d mem⟩,
        fun d mem => (others d mem).imp fun u both => ⟨mem_cons_of_mem _ both.1, both.2⟩⟩)
end

mutual
/-- Whether a phrase of some kinds stands in a tree, outside of phrases that hand on nothing. -/
def shows (kinds : List Nonterminal) : Tree Token → Bool
  | .leaf _ => false
  | .node kind children =>
    kinds.contains kind || (!sealing.contains kind && showsAny kinds children)

def showsAny (kinds : List Nonterminal) : List (Tree Token) → Bool
  | [] => false
  | t :: ts => shows kinds t || showsAny kinds ts
end

lemma showsAny_iff : showsAny kinds ts = true ↔ ∃ t ∈ ts, shows kinds t = true := by
  induction ts with
  | nil => simp [showsAny]
  | cons t ts ih => simp [showsAny, ih]

lemma ComesFrom.no_expr (comes : ComesFrom d t)
    (plain : shows [.statement, .unitStatement] t = false) : d.isExpr = false := by
  induction comes with
  | made makes =>
    cases d with
    | expr value =>
      rw [Compile.makes] at makes
      rw [shows, makes] at plain
      cases plain
    | _ => rfl
  | handed hands mem _ ih =>
    refine ih (Bool.eq_false_iff.2 fun inside => ?_)
    rw [shows, showsAny_iff.2 ⟨_, mem, inside⟩] at plain
    simp [hands] at plain

def AllUnmarked (ds : List Draft) : Prop := ∀ d ∈ ds, IsUnmarked d

mutual
def markFree : Tree Token → Bool
  | .leaf _ => true
  | .node kind children =>
    closed.contains kind || (!alternatives.contains kind && markFreeAll children)

def markFreeAll : List (Tree Token) → Bool
  | [] => true
  | t :: ts => markFree t && markFreeAll ts
end

lemma markFreeAll_iff : markFreeAll ts = true ↔ ∀ t ∈ ts, markFree t = true := by
  induction ts with
  | nil => simp [markFreeAll]
  | cons t ts ih => simp [markFreeAll, ih]

lemma unmarked_of_makes (other : kind ∉ alternatives) (makes : makes kind d = true) :
    IsUnmarked d := by
  rw [show alternatives = tested ++ [.elsePart, .caseElsePart] from rfl, mem_append,
    not_or] at other
  refine ⟨?_, ?_⟩
  · rintro rfl
    exact other.1 (contains_iff_mem.1 makes)
  · rintro rfl
    exact other.2 (contains_iff_mem.1 makes)

lemma closed_not_alternative : ∀ kind ∈ closed, kind ∉ alternatives := by decide

lemma ComesFrom.unmarked (comes : ComesFrom d t) (free : markFree t) : IsUnmarked d := by
  induction comes with
  | made makes =>
    rw [markFree, or_eq_true, and_eq_true, contains_iff_mem] at free
    refine unmarked_of_makes ?_ makes
    rcases free with shut | ⟨other, -⟩
    · exact closed_not_alternative _ shut
    · simpa using other
  | handed hands mem _ ih =>
    rw [markFree, or_eq_true, and_eq_true, contains_iff_mem] at free
    rcases free with shut | ⟨-, free⟩
    · exact absurd (mem_append_left _ shut) hands
    · exact ih (markFreeAll_iff.1 free _ mem)

/-- A tree whose alternatives all belong to branches in it compiles to drafts that are no marks. -/
lemma always_compile (t) (free : markFree t) : Always AllUnmarked (compile src t) :=
  fun s ds s' comp d mem => (always_comes t s ds s' comp d mem).unmarked free

lemma always_compileAll (ts) (free : markFreeAll ts) : Always AllUnmarked (compileAll src ts) := by
  intro s ds s' comp d mem
  obtain ⟨t, inside, comes⟩ := always_comesAll ts s ds s' comp d mem
  exact comes.unmarked (markFreeAll_iff.1 free t inside)

end BlockScript.Compile
