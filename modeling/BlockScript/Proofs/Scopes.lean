import BlockScript.Proofs.Phrases

/-!
What compiling does to a scope. It may import packages anywhere; it declares names only where a
phrase declares something, and it changes the package only at a package.
-/

namespace BlockScript

namespace Scope

structure Grows (s s' : Scope) : Prop where
  package : s'.package = s.package
  ownMembers : s'.ownMembers = s.ownMembers
  declared : s.declared ⊆ s'.declared

structure Same (s s' : Scope) : Prop where
  package : s'.package = s.package
  ownMembers : s'.ownMembers = s.ownMembers
  declared : s'.declared = s.declared

lemma mem_addNew {name : String} : other ∈ addNew names name ↔ other ∈ names ∨ other = name := by
  unfold addNew
  split
  case isTrue known => grind
  case isFalse => simp

lemma mem_addAllNew {more : List String} :
    other ∈ addAllNew names more ↔ other ∈ names ∨ other ∈ more := by
  induction more generalizing names with
  | nil => simp [addAllNew]
  | cons name more ih =>
    change other ∈ addAllNew (addNew names name) more ↔ _
    rw [ih, mem_addNew, mem_cons, or_assoc]

lemma grows_declareAll (s names) : Grows s (s.declareAll names) :=
  ⟨rfl, rfl, fun _ known => mem_addAllNew.2 (.inl known)⟩

lemma use_inv {s : Scope} (used : s.use ref = .ok s') : ∃ root, rootOf ref = .ok root ∧
      s' = if s.package == some root || s.declared.contains root then s else s.require root := by
  obtain ⟨root, found, result⟩ := Compile.steps_of_bind used
  cases result
  exact ⟨root, found, rfl⟩

end Scope

namespace Compile

lemma bind_inv {f : α → Compile β} (made : (x >>= f) s = .ok (b, s'')) :
    ∃ a s', x s = .ok (a, s') ∧ f a s' = .ok (b, s'') := by
  simp only [bind, StateT.bind] at made
  rcases given : x s with reason | ⟨a, s'⟩
  · rw [given] at made
    cases made
  · rw [given] at made
    exact ⟨a, s', rfl, made⟩

lemma lift_inv {x : Except Reject α} (made : (liftM x : Compile α) s = .ok (a, s')) :
    x = .ok a ∧ s' = s := by
  rcases x with reason | b
  · cases made
  · cases made
    exact ⟨rfl, rfl⟩

lemma within_inv {inner : Scope} {body : Compile α}
    (made : within inner body s = .ok (result, s')) : body inner = .ok result ∧ s' = s := by
  rcases given : body inner with reason | r
  · rw [within, StateT.run, given] at made
    cases made
  · rw [within, StateT.run, given] at made
    cases made
    exact ⟨rfl, rfl⟩

lemma one_inv (made : (do return [← x] : Compile (List Draft)) s = .ok (ds, s')) :
    ∃ d, ds = [d] ∧ x s = .ok (d, s') := by
  obtain ⟨d, s1, given, returned⟩ := bind_inv made
  cases returned
  exact ⟨d, rfl, given⟩

lemma mapM_lift (f : α → Except Reject β) (xs : List α) (s) :
    (xs.mapM fun x => (liftM (f x) : Compile β)) s = (xs.mapM f).map fun ys => (ys, s) := by
  induction xs with
  | nil => rfl
  | cons x xs ih =>
    rw [mapM_cons, mapM_cons]
    rcases given : f x with reason | y
    · rfl
    · change ((xs.mapM fun x => (liftM (f x) : Compile β)) >>= fun ys => pure (y :: ys)) s = _
      simp only [bind, StateT.bind, ih]
      rcases xs.mapM f with reason | ys <;> rfl

lemma nameOf_inv (named : nameOf d = .ok name) : d = .ident name := by
  unfold nameOf at named
  split at named
  case _ id is =>
    cases named
    unfold Draft.id? at is
    split at is
    · cases is
      rfl
    · cases is
  case _ => cases named

lemma elementPart_made (made : elementPart ts parts s = .ok (d, s')) :
    s' = s ∧ ∃ callee, s.resolvePath (namesOf ts .idExpression) = .ok callee ∧
      d = .call callee (if hasPhrase ts .functionArgument then
        parts.drop (namesOf ts .idExpression).length else []) := by
  obtain ⟨_, _, got, rest⟩ := bind_inv made
  cases got
  obtain ⟨callee, _, resolved, last⟩ := bind_inv rest
  obtain ⟨resolved, rfl⟩ := lift_inv resolved
  cases last
  exact ⟨rfl, callee, resolved, rfl⟩

lemma element_inv (made : element parts s = .ok (d, s')) :
    ∃ value rest, parts = value :: rest ∧ s.use value = .ok s' ∧
      (rest = [] ∧ d = value ∨ ∃ func args others name, rest = .call func args :: others ∧
        nameOf func = .ok name ∧ d = .member value name) := by
  cases parts with
  | nil => cases made
  | cons value rest =>
    refine ⟨value, rest, rfl, ?_⟩
    simp only [element, first, bind, StateT.bind, liftM, monadLift, MonadLift.monadLift,
      StateT.lift, Except.bind, pure, Except.pure, get, getThe, MonadStateOf.get, StateT.get,
      MonadStateOf.set, StateT.set] at made
    rcases used : s.use value with reason | s1
    · grind
    rw [used] at made
    dsimp only at made
    split at made
    · cases made
      exact ⟨rfl, .inl ⟨rfl, rfl⟩⟩
    · rename_i func args others
      rcases named : nameOf func with reason | name
      · rw [named] at made
        cases made
      · rw [named] at made
        cases made
        exact ⟨rfl, .inr ⟨func, args, others, name, rfl, named, rfl⟩⟩
    · cases made

lemma element_single (made : element [value] s = .ok (d, s')) : d = value := by
  obtain ⟨_, _, split, -, ⟨-, rfl⟩ | ⟨_, _, _, _, rfl, -⟩⟩ := element_inv made
  · exact (List.cons.inj split).1.symm
  · cases split

lemma routineName_inv (made : routineName parts s = .ok (d, s')) :
    ∃ part rest root, parts = part :: rest ∧ nameOf part = .ok root ∧
      s.use (s.resolve root) = .ok s' ∧
      (rest = [] ∧ d = s.resolve root ∨
        ∃ method others, rest = method :: others ∧ d = .attribute (s.resolve root) method) := by
  cases parts with
  | nil => cases made
  | cons part rest =>
    simp only [routineName, head, first, bind, StateT.bind, liftM, monadLift, MonadLift.monadLift,
      StateT.lift, Except.bind, pure, Except.pure, get, getThe, MonadStateOf.get, StateT.get,
      MonadStateOf.set] at made
    rcases named : nameOf part with reason | root
    · grind
    rw [named] at made
    dsimp only at made
    rcases used : s.use (s.resolve root) with reason | s1
    · grind
    rw [used] at made
    refine ⟨part, rest, root, rfl, named, ?_⟩
    cases rest with
    | nil =>
      cases made
      exact ⟨used, .inl ⟨rfl, rfl⟩⟩
    | cons method rest =>
      cases made
      exact ⟨used, .inr ⟨method, rest, rfl, rfl⟩⟩

def declaring : List Nonterminal :=
  [.seqOfDeclareSpecs, .variableDeclaration, .typeDeclaration, .cursorLoopParam, .cursorDeclaration,
    .procedureBody, .functionBody, .createProcedureBody, .createFunctionBody]

def packages : List Nonterminal := [.createPackage, .createPackageBody]

mutual
def everyPhrase (allowed : Nonterminal → Bool) : Tree Token → Bool
  | .leaf _ => true
  | .node kind children => allowed kind && everyPhraseAll allowed children

def everyPhraseAll (allowed : Nonterminal → Bool) : List (Tree Token) → Bool
  | [] => true
  | t :: ts => everyPhrase allowed t && everyPhraseAll allowed ts
end

mutual
theorem everyPhrase_mono (wider : ∀ kind, allowed kind = true → more kind = true) (t)
    (every : everyPhrase allowed t = true) : everyPhrase more t = true := by
  match t with
  | .leaf _ => rfl
  | .node kind ts =>
    rw [everyPhrase, and_eq_true] at every ⊢
    exact ⟨wider kind every.1, everyPhraseAll_mono wider ts every.2⟩

theorem everyPhraseAll_mono (wider : ∀ kind, allowed kind = true → more kind = true)
    (ts) (every : everyPhraseAll allowed ts = true) :
    everyPhraseAll more ts = true := by
  match ts with
  | [] => rfl
  | t :: ts =>
    rw [everyPhraseAll, and_eq_true] at every ⊢
    exact ⟨everyPhrase_mono wider t every.1, everyPhraseAll_mono wider ts every.2⟩
end

def lacks (kinds : List Nonterminal) (t : Tree Token) : Bool :=
  everyPhrase (fun kind => !kinds.contains kind) t

def lacksAll (kinds : List Nonterminal) (ts : List (Tree Token)) : Bool :=
  everyPhraseAll (fun kind => !kinds.contains kind) ts

lemma lacks_node :
    lacks kinds (.node kind ts) = true ↔ kind ∉ kinds ∧ lacksAll kinds ts = true := by
  simp [lacks, lacksAll, everyPhrase]

lemma lacksAll_cons :
    lacksAll kinds (t :: ts) = true ↔ lacks kinds t = true ∧ lacksAll kinds ts = true := by
  simp [lacks, lacksAll, everyPhraseAll]

lemma lacksAll_iff : lacksAll kinds ts = true ↔ ∀ t ∈ ts, lacks kinds t = true := by
  induction ts with
  | nil => simp [lacksAll, everyPhraseAll]
  | cons t ts ih => simp [lacksAll_cons, ih]

lemma lacks_inside (lack : lacks kinds (.node kind ts) = true) : ∀ t ∈ ts, lacks kinds t = true :=
  lacksAll_iff.1 (lacks_node.1 lack).2

def quiet : List Nonterminal := packages ++ declaring

lemma lacks_of_quiet (among : ∀ kind ∈ kinds, kind ∈ quiet) (lack : lacksAll quiet ts = true) :
    lacksAll kinds ts = true := by
  refine everyPhraseAll_mono (fun kind other => ?_) ts lack
  simp only [Bool.not_eq_true', contains_eq_mem, decide_eq_false_iff_not] at other ⊢
  exact fun mem => other (among kind mem)

lemma cursorParameters_skip (other : t.kind? ≠ some .parameterSpec) :
    cursorParameters src (t :: ts) = cursorParameters src ts := by
  rw [cursorParameters]
  rintro children rfl
  exact other rfl

def CompilesParts (kind : Nonterminal) (children : List (Tree Token)) : Prop :=
  kind ∉ special ∨ kind = .constant ∧ wordConstant? children = none ∨
    kind = .typeSpec ∧ has children .PERCENT_TYPE = false ∧
      has children .PERCENT_ROWTYPE = false ∧ hasPhrase children .typeName = true ∨
    kind = .executeImmediate ∧
      (hasPhrase children .usingClause || hasPhrase children .dynamicReturningClause) = false

end Compile
end BlockScript
