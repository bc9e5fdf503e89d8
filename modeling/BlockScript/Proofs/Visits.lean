import BlockScript.Proofs.Resemblance

/-!
The scopes in which the parts of a tree are compiled, and what a reference compiles to.
-/

namespace BlockScript

namespace Scope

/-- A relation that holds between the scopes before and after any steps, if it does for each, and
that does not look at what is imported. -/
structure IsOrder (R : Scope → Scope → Prop) : Prop where
  refl : ∀ s, R s s
  trans : ∀ s s' s'', R s s' → R s' s'' → R s s''
  requires : ∀ s packages, R s (s.requireAll packages)

structure Enters (R : Scope → Scope → Prop) : Prop where
  specification : ∀ s, R s s.enterSpecification
  body : ∀ s package, R s (s.enterBody package)
  declares : ∀ s names, R s (s.declareAll names)

lemma isOrder_grows : IsOrder Grows where
  refl _ := ⟨rfl, rfl, List.Subset.refl _⟩
  trans _ _ _ first second :=
    ⟨second.package.trans first.package, second.ownMembers.trans first.ownMembers,
      List.Subset.trans first.declared second.declared⟩
  requires _ _ := ⟨rfl, rfl, List.Subset.refl _⟩

lemma isOrder_same : IsOrder Same where
  refl _ := ⟨rfl, rfl, rfl⟩
  trans _ _ _ first second :=
    ⟨second.package.trans first.package, second.ownMembers.trans first.ownMembers,
      second.declared.trans first.declared⟩
  requires _ _ := ⟨rfl, rfl, rfl⟩

def Behind (R : Scope → Scope → Prop) (start s s' : Scope) : Prop := s = s' ∧ R start s

lemma Behind.step (order : IsOrder R) (behind : Behind R start s s') {f : Scope → Scope}
    (moves : ∀ s, R s (f s)) :
    Behind R start (f s) (f s') :=
  ⟨congrArg f behind.1, order.trans start s (f s) behind.2 (moves s)⟩

end Scope

namespace Compile

open Scope (IsOrder Enters Behind)

/-- A tree enters packages only if that takes a scope to a related one, and so for declarations. -/
def MovesAlong (R : Scope → Scope → Prop) (t : Tree Token) : Prop :=
  (Enters R ∨ lacks packages t = true) ∧
    ((∀ s names, R s (s.declareAll names)) ∨ lacks declaring t = true)

lemma MovesAlong.inside (along : MovesAlong R (.node kind ts)) : ∀ t ∈ ts, MovesAlong R t := by
  intro t mem
  simp only [MovesAlong, lacks_node, lacksAll_iff] at along
  exact ⟨along.1.imp_right fun lack => lack.2 t mem, along.2.imp_right fun lack => lack.2 t mem⟩

lemma MovesAlong.enters (along : MovesAlong R (.node kind ts)) (is : kind ∈ packages) : Enters R :=
  along.1.resolve_right fun lack => (lacks_node.1 lack).1 is

lemma MovesAlong.declares (along : MovesAlong R (.node kind ts)) (is : kind ∈ quiet) (s names) :
    R s (s.declareAll names) := by
  rcases mem_append.1 is with pkg | declares
  · exact (along.enters pkg).declares s names
  · exact (along.2.resolve_right fun lack => (lacks_node.1 lack).1 declares) s names

lemma accords_behind (order : IsOrder R) :
    Accords src src id (Behind R) Eq (fun t _ => MovesAlong R t) fun _ _ => True where
  requires packages behind := behind.step order fun s => order.requires s packages
  imports root behind := behind.step (f := (·.importing root)) order fun s => by
    unfold Scope.importing
    split
    · exact order.refl s
    · exact order.requires s [root]
  merges behind same := same ▸ behind.step order fun s => order.requires s _
  declares along is _ _ _ names behind := behind.step order fun s => along.declares is s names
  asks _ _ behind := by rw [behind.1]
  query _ _ behind := by rw [behind.1, Tree.mapAll_id]
  cursor names _ behind := ⟨_, congrArg (·.cursor names) behind.1, order.refl _⟩
  routine names _ _ behind := by rw [behind.1]
  standalone _ _ behind := by rw [behind.1]
  specification along behind := behind.step order (along.enters (by decide)).specification
  body pkg along behind := behind.step order fun s => (along.enters (by decide)).body s pkg
  script _ behind := by rw [behind.1]
  inside along _ _ := throughout_of_forall along.inside _
  enclosed _ _ _ := throughout_of_forall (fun _ _ => trivial) _
  parameters along := throughoutParameters_of_forall (fun _ mem => (along.inside _ mem).inside) _

lemma Matching.moves (matching : Matching (Behind R start) E x x) (given : x = .ok (a, s')) :
    R start s' := by
  subst given
  cases matching with
  | ok _ behind => exact behind.2

section

variable (order : IsOrder R)
include order

lemma moves_assemble (along : MovesAlong R (.node kind ts))
    (parts : kind ∉ special → compileAll src ts r = .ok (ds, s))
    (made : assemble (.node kind ts) kind ds s = .ok (es, s')) : R s s' := by
  have matching := matching_assemble (E := Eq) (accords_behind order) ⟨rfl, order.refl s⟩ along
    parts keepsReading_id
  rw [Tree.map_id] at matching
  exact matching.moves made

omit order in
lemma movesAlong (free : Enters R ∨ lacksAll packages ts = true)
    (declares : (∀ s names, R s (s.declareAll names)) ∨ lacksAll declaring ts = true) :
    ∀ t ∈ ts, MovesAlong R t := by
  intro t mem
  simp only [lacksAll_iff] at free declares
  exact ⟨free.imp_right (· t mem), declares.imp_right (· t mem)⟩

variable (free : Enters R ∨ lacksAll packages ts = true)
  (declares : (∀ s names, R s (s.declareAll names)) ∨ lacksAll declaring ts = true)
include free declares

/-- Trees take a scope to a related one, if entering packages does or they have none, and if
declaring names does or they declare none. -/
lemma moves_compileAll (comp : compileAll src ts s = .ok (ds, s')) : R s s' := by
  have matching : Matching (Behind R s) Eq (compileAll src ts s) (compileAll src ts s) :=
    matching_self accords_refl (accords_behind order)
      (throughout_of_forall (movesAlong free declares) s) ⟨rfl, order.refl s⟩
  exact matching.moves comp

lemma moves_cursorParameters (given : cursorParameters src ts s = .ok (names, s')) : R s s' := by
  have along := movesAlong free declares
  have each : ThroughoutParameters src (fun t _ => MovesAlong R t) ts s :=
    throughoutParameters_of_forall (fun _ mem => (along _ mem).inside) s
  have matching := matching_cursorParameters (E := Eq) keepsReading_id
    accords_refl (accords_behind order) ts each ⟨rfl, order.refl s⟩
  rw [Tree.mapAll_id] at matching
  exact matching.moves given

end

lemma grows_compileAll (free : lacksAll packages ts = true)
    (comp : compileAll src ts s = .ok (ds, s')) : s.Grows s' :=
  moves_compileAll Scope.isOrder_grows (.inr free) (.inl Scope.grows_declareAll) comp

variable (lack : lacksAll quiet ts = true)
include lack

lemma same_compileAll (comp : compileAll src ts s = .ok (ds, s')) : s.Same s' :=
  moves_compileAll Scope.isOrder_same (.inr (lacks_of_quiet (by decide) lack))
    (.inr (lacks_of_quiet (by decide) lack)) comp

lemma same_cursorParameters (given : cursorParameters src ts s = .ok (names, s')) : s.Same s' :=
  moves_cursorParameters Scope.isOrder_same (.inr (lacks_of_quiet (by decide) lack))
    (.inr (lacks_of_quiet (by decide) lack)) given

end Compile
end BlockScript

namespace BlockScript.Compile
open Scope

/-- `Visits source s t s' u`: when the tree `t` is compiled in the scope `s`, its part `u` is
compiled in the scope `s'`. The queries of cursors are left out: they have a scope without a
package. -/
inductive Visits (source : String) : Scope → Tree Token → Scope → Tree Token → Prop where
  | here : Visits source s t s t
  | inside (passes : CompilesParts kind children) (split : children = front ++ t :: back)
      (before : compileAll source front s = .ok (ds, s₁)) (there : Visits source s₁ t s' u) :
      Visits source s (.node kind children) s' u
  | counting (index : namesOf children .indexName = name :: others)
      (split : children = front ++ t :: back)
      (before : compileAll source front (s.declare name) = .ok (ds, s₁))
      (there : Visits source s₁ t s' u) :
      Visits source s (.node .cursorLoopParam children) s' u
  | routine (is : kind = .procedureBody ∨ kind = .functionBody)
      (split : children = front ++ t :: back)
      (before : compileAll source front (s.routine.declareAll (parameterNames children)) =
        .ok (ds, s₁)) (there : Visits source s₁ t s' u) :
      Visits source s (.node kind children) s' u

lemma lacksAll_append :
    lacksAll kinds (ts ++ us) = true ↔ lacksAll kinds ts = true ∧ lacksAll kinds us = true := by
  simp [lacksAll_iff, or_imp, forall_and]

lemma Visits.first (passes : CompilesParts kind (t :: back)) (there : Visits src s t s' u) :
    Visits src s (.node kind (t :: back)) s' u :=
  .inside passes (show _ = [] ++ t :: back from rfl) compileAll_nil there

lemma grows_before (free : lacks packages (.node kind ts) = true)
    (split : ts = front ++ t :: back) (before : compileAll src front s = .ok (ds, s1)) :
    s.Grows s1 ∧ lacks packages t = true := by
  subst split
  rw [lacks_node, lacksAll_append, lacksAll_cons] at free
  exact ⟨grows_compileAll free.2.1 before, free.2.2.1⟩

lemma Visits.lacking (visits : Visits src s t s' u) (free : lacks kinds t = true) :
    lacks kinds u = true := by
  induction visits with
  | here => exact free
  | inside _ split _ _ ih | counting _ split _ _ ih | routine _ split _ _ ih =>
    subst split
    exact ih (lacks_inside free _ (by simp))

lemma Visits.members (visits : Visits src s t s' u) (free : lacks packages t = true)
    (own : s.ownMembers = some known) : s'.package = s.package ∧ s'.ownMembers = some known := by
  induction visits with
  | here => exact ⟨rfl, own⟩
  | inside passes split before there ih | counting index split before there ih =>
    obtain ⟨grows, inner⟩ := grows_before free split before
    obtain ⟨pkg, members⟩ := ih inner (grows.ownMembers.trans own)
    exact ⟨pkg.trans grows.package, members⟩
  | routine is split before there ih =>
    obtain ⟨grows, inner⟩ := grows_before free split before
    obtain ⟨pkg, members⟩ := ih inner
      (grows.ownMembers.trans (by simp [Scope.declareAll, Scope.routine, Scope.members, own]))
    exact ⟨pkg.trans grows.package, members⟩

def IsIdentifier (t : Tree Token) : Prop :=
  ∃ tokens, t = .node .identifier [.node .idExpression [.node .regularId tokens]]

inductive Refers : Tree Token → List (Tree Token) → String → Prop where
  | reference (names : namesOf part .idExpression = name :: path) :
      Refers (.node .generalElement (.node .generalElementPart part :: rest))
        (.node .generalElementPart part :: rest) name
  | called (id : IsIdentifier t) : Refers (.node .routineName (t :: rest)) (t :: rest) t.capitals
  | raised (id : IsIdentifier t) : Refers (.node .exceptionName (t :: rest)) (t :: rest) t.capitals
  | typed (names : namesOf children .idExpression = name :: path) :
      Refers (.node .typeName children) [] name

def IsUse (t : Tree Token) : Prop := t.kind? = some .generalElement ∨ t.kind? = some .routineName

inductive Begins (root : Draft) : Draft → Prop where
  | refl : Begins root root
  | member (value : Begins root d) : Begins root (.attribute d attr)
  | call (func : Begins root d) : Begins root (.call d arguments)

lemma Begins.path (begins : Begins root d) (path : List String) :
    Begins root (path.foldl Draft.member d) := by
  induction path generalizing d with
  | nil => exact begins
  | cons name path ih => exact ih (.member begins)

lemma Begins.rootOf (begins : Begins root d) : Scope.rootOf d = Scope.rootOf root := by
  induction begins with
  | refl => rfl
  | member value ih => rw [Scope.rootOf, ih]
  | call func ih => rw [Scope.rootOf, ih]

lemma Begins.linear (first : Begins root d) (second : Begins root' d) :
    Begins root root' ∨ Begins root' root := by
  induction first with
  | refl => exact .inr second
  | member value ih =>
    cases second with
    | refl => exact .inl (.member value)
    | member value' => exact ih value'
  | call func ih =>
    cases second with
    | refl => exact .inl (.call func)
    | call func' => exact ih func'

variable {inner : List (Tree Token)} {path : List String}

lemma Refers.lacking (refers : Refers u inner name) (free : lacks kinds u = true) :
    lacksAll kinds inner = true := by
  cases refers with
  | reference | called | raised => exact (lacks_node.1 free).2
  | typed => rfl

lemma compile_identifier (id : IsIdentifier t) :
    compile src t s = .ok ([.ident t.capitals], s) := by
  obtain ⟨tokens, rfl⟩ := id
  simp only [Tree.capitals_single]
  exact compile_of_parts (compileAll_single (compile_of_parts
    (compileAll_single (by rw [compile]; rfl)) rfl)) rfl

lemma elementPart_inv (names : namesOf ts .idExpression = name :: path)
    (made : elementPart ts parts s = .ok (d, s')) : s' = s ∧ Begins (s.resolve name) d := by
  unfold elementPart at made
  rw [names] at made
  cases made
  exact ⟨rfl, .call (Begins.path .refl path)⟩

lemma exceptionName_inv
    (assembled : assemble t .exceptionName (.ident name :: ds) s = .ok (es, s')) :
    s' = s ∧ ∃ d, es = [d] ∧ Begins (s.resolve name) d := by
  unfold assemble at assembled
  simp only [bind, StateT.bind, mapM_lift, mapM_cons] at assembled
  rcases named : ds.mapM nameOf with reason | names <;> rw [named] at assembled
  · cases assembled
  · cases assembled
    exact ⟨rfl, _, rfl, .path .refl names⟩

lemma reference_inv (names : namesOf part .idExpression = name :: path)
    (free : lacksAll packages (.node .generalElementPart part :: rest) = true)
    (parts : compileAll src (.node .generalElementPart part :: rest) s = .ok (ds, s1))
    (comp : compile src (.node .generalElement (.node .generalElementPart part :: rest)) s =
      .ok (es, s')) :
    ∃ d s2 root, es = [d] ∧ Begins (s2.resolve name) d ∧ s.Grows s2 ∧ s2.Grows s1 ∧
      rootOf (s2.resolve name) = .ok root ∧
      s' = if s1.package == some root || s1.declared.contains root then s1
        else s1.require root := by
  obtain ⟨ds', s₁', parts', whole⟩ := parts_of_compile comp
  cases parts.symm.trans parts'
  obtain ⟨first, others, s2, here, later, rfl⟩ := compileAll_cons_inv parts
  obtain ⟨inside, s3, args, assembled⟩ := parts_of_compile here
  rw [lacksAll_cons, lacks_node] at free
  obtain ⟨d, rfl, made⟩ := one_inv assembled
  obtain ⟨rfl, begins⟩ := elementPart_inv names made
  obtain ⟨e, rfl, made⟩ := one_inv whole
  obtain ⟨value, _, split, used, shape⟩ := element_inv made
  cases split
  obtain ⟨root, rooted, result⟩ := use_inv used
  refine ⟨e, _, root, rfl, ?_, grows_compileAll free.1.2 args, grows_compileAll free.2 later,
    ?_, result⟩
  · rcases shape with ⟨-, rfl⟩ | ⟨_, _, _, _, -, -, rfl⟩
    · exact begins
    · exact .member begins
  · rw [← begins.rootOf, rooted]

/-- What a reference compiles to begins with what its name stands for, and a use imports at most what
that begins with. -/
lemma Refers.inv (refers : Refers u inner name) (free : lacksAll packages inner = true)
    (parts : compileAll src inner s = .ok (ds, s1))
    (comp : compile src u s = .ok (es, s')) :
    ∃ d s2, es = [d] ∧ Begins (s2.resolve name) d ∧ s.Grows s2 ∧ s2.Grows s1 ∧
      (¬ IsUse u ∧ s' = s1 ∨ IsUse u ∧ ∃ root, rootOf (s2.resolve name) = .ok root ∧
        s' = if s1.package == some root || s1.declared.contains root then s1
          else s1.require root) := by
  cases refers with
  | reference names =>
    obtain ⟨d, s2, root, single, begins, before, behind, rooted, result⟩ :=
      reference_inv names free parts comp
    exact ⟨d, s2, single, begins, before, behind, .inr ⟨.inl rfl, root, rooted, result⟩⟩
  | @called t rest id =>
    obtain ⟨ds', s₁', parts', whole⟩ := parts_of_compile comp
    cases parts.symm.trans parts'
    obtain ⟨_, others, s2, here, later, rfl⟩ := compileAll_cons_inv parts
    cases (compile_identifier id).symm.trans here
    obtain ⟨d, rfl, made⟩ := one_inv whole
    obtain ⟨part, _, root, split, named, used, shape⟩ := routineName_inv made
    cases split
    cases named
    obtain ⟨root, rooted, result⟩ := use_inv used
    refine ⟨d, s1, rfl, ?_, grows_compileAll free parts, isOrder_grows.refl _,
      .inr ⟨.inr rfl, root, rooted, result⟩⟩
    rcases shape with ⟨-, rfl⟩ | ⟨_, _, -, rfl⟩
    · exact .refl
    · exact .member .refl
  | @raised t rest id =>
    obtain ⟨ds', s₁', parts', whole⟩ := parts_of_compile comp
    cases parts.symm.trans parts'
    obtain ⟨_, others, s2, here, later, rfl⟩ := compileAll_cons_inv parts
    cases (compile_identifier id).symm.trans here
    obtain ⟨rfl, d, rfl, begins⟩ := exceptionName_inv whole
    exact ⟨d, s', rfl, begins, grows_compileAll free parts, isOrder_grows.refl _,
      .inl ⟨by simp [IsUse, Tree.kind?], rfl⟩⟩
  | @typed ts _ path names =>
    rw [compileAll_nil] at parts
    cases parts
    rw [compile, typeName, names] at comp
    cases comp
    exact ⟨_, s, rfl, .path .refl path, isOrder_grows.refl _, isOrder_grows.refl _,
      .inl ⟨by simp [IsUse, Tree.kind?], rfl⟩⟩

end BlockScript.Compile
