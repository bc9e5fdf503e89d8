import BlockScript.Proofs.Visits
import BlockScript.Proofs.Core.Language

/-!
Which members of a package a routine of it knows. A routine sees the names that were declared when
it began: those of the specification and those that stand before it in the body.
-/

namespace BlockScript.Compile

inductive MemberKind where
  | variable | type | subtype | cursor | exception | routine | signature | pragma
deriving DecidableEq

namespace MemberKind

def isDeclared : MemberKind → Bool
  | .variable | .type | .cursor | .routine => true
  | _ => false

def isAssigned : MemberKind → Bool
  | .variable | .type | .subtype | .cursor => true
  | _ => false

end MemberKind

def objects : List Nonterminal := [.packageObjSpec, .packageObjBody]

inductive IsDeclaration : Tree Token → MemberKind → String → Prop where
  | var (id : IsIdentifier t) (rest : lacksAll quiet ts = true) :
      IsDeclaration (.node .variableDeclaration (t :: ts)) .variable t.capitals
  | type (word : IsLeaf .TYPE w) (id : IsIdentifier t)
      (rest : lacksAll quiet ts = true) :
      IsDeclaration (.node .typeDeclaration (w :: t :: ts)) .type t.capitals
  | subtype (word : IsLeaf .SUBTYPE w) (id : IsIdentifier t)
      (rest : lacksAll quiet ts = true) :
      IsDeclaration (.node .subtypeDeclaration (w :: t :: ts)) .subtype t.capitals
  | cursor (word : IsLeaf .CURSOR w) (id : IsIdentifier t)
      (rest : lacksAll quiet ts = true) :
      IsDeclaration (.node .cursorDeclaration (w :: t :: ts)) .cursor t.capitals
  | exception (id : IsIdentifier t) (word : IsLeaf .EXCEPTION w) (semicolon : IsLeaf .SEMICOLON e) :
      IsDeclaration (.node .exceptionDeclaration [t, w, e]) .exception t.capitals
  | procedure (word : IsLeaf .PROCEDURE w) (id : IsIdentifier t) :
      IsDeclaration (.node .procedureBody (w :: t :: ts)) .routine t.capitals
  | function (word : IsLeaf .FUNCTION w) (id : IsIdentifier t) :
      IsDeclaration (.node .functionBody (w :: t :: ts)) .routine t.capitals
  | procedureSpec (word : IsLeaf .PROCEDURE w) (id : IsIdentifier t) :
      IsDeclaration (.node .procedureSpec (w :: t :: ts)) .signature t.capitals
  | functionSpec (word : IsLeaf .FUNCTION w) (id : IsIdentifier t) :
      IsDeclaration (.node .functionSpec (w :: t :: ts)) .signature t.capitals
  | pragma : IsDeclaration (.node .pragmaDeclaration ts) .pragma ""

def IsMember (t : Tree Token) (kind : MemberKind) (name : String) : Prop :=
  ∃ phrase ∈ objects, ∃ declaration, t = .node phrase [declaration] ∧
    IsDeclaration declaration kind name

section

variable {s s' : Scope}

structure Enters (kind : MemberKind) (name : String) (s s' : Scope) (ds : List Draft) : Prop where
  package : s'.package = s.package
  ownMembers : s'.ownMembers = s.ownMembers
  declared : ∀ n, n ∈ s'.declared ↔ n ∈ s.declared ∨ n = name ∧ kind.isDeclared = true
  assigned : ∀ target value, .assign target value ∈ ds →
    target = .ident name ∧ kind.isAssigned = true
  assigns : kind.isAssigned = true → ∃ value, .assign (.ident name) value ∈ ds

variable {id : String}

lemma variableOf_named (rest) : ∃ value, variableOf (.ident name :: rest) s =
      .ok (.assign (.ident name) value, s.declare name) := by
  cases rest with
  | nil => exact ⟨_, rfl⟩
  | cons d rest => cases d <;> exact ⟨_, rfl⟩

lemma typeDeclaration_inv (made : typeDeclaration ts (.ident name :: rest) s = .ok (d, s')) :
    ∃ value imported, d = .assign (.ident name) value ∧
      s' = (s.declare name).requireAll imported := by
  obtain ⟨_, _, split, made⟩ := bind_inv made
  cases split
  obtain ⟨_, _, named, made⟩ := bind_inv made
  cases named
  obtain ⟨_, _, declared, made⟩ := bind_inv made
  cases declared
  split at made
  · split at made
    · cases made
      exact ⟨_, _, rfl, rfl⟩
    · cases made
      exact ⟨_, ["PLTABLE"], rfl, rfl⟩
  · split at made
    · cases made
      exact ⟨_, ["PLRECORD"], rfl, rfl⟩
    · cases made

lemma subtypeOf_inv (made : subtypeOf (.ident name :: rest) = .ok d) :
    ∃ type, d = .assign (.ident name) type := by
  cases rest with
  | nil => cases made
  | cons part rest => cases part <;> cases made; exact ⟨_, rfl⟩

lemma cursor_inv (made : cursor parameters (.ident name :: rest) = .ok (id, d)) :
    id = name ∧ ∃ value, d = .assign (.ident name) value := by
  obtain ⟨_, split, made⟩ := steps_of_bind made
  cases split
  obtain ⟨_, named, made⟩ := steps_of_bind made
  cases named
  split at made
  · cases made
  · cases made
    exact ⟨rfl, _, rfl⟩

lemma routine_inv (made : routine (.ident name :: rest) = .ok (id, d)) :
    id = name ∧ ∃ parameters body, d = .function name parameters body [] := by
  obtain ⟨_, split, made⟩ := steps_of_bind made
  cases split
  dsimp only at made
  split at made
  · cases made
  · cases made
    exact ⟨rfl, _, _, rfl⟩

lemma compileAll_identifier_inv (id : IsIdentifier t)
    (comp : compileAll src (t :: ts) s = .ok (ds, s')) :
    ∃ rest, ds = .ident t.capitals :: rest ∧ compileAll src ts s = .ok (rest, s') := by
  obtain ⟨own, rest, s1, here, later, rfl⟩ := compileAll_cons_inv comp
  cases (compile_identifier id).symm.trans here
  exact ⟨rest, rfl, later⟩

lemma enters_of_same (same : s.Same s1) (imported)
    (after : s' = (if kind.isDeclared then s1.declare name else s1).requireAll imported)
    (drafted : if kind.isAssigned then ∃ value, ds = [.assign (.ident name) value]
      else ∀ target value, .assign target value ∉ ds) : Enters kind name s s' ds := by
  subst after
  constructor
  · split
    · exact same.package
    · exact same.package
  · split
    · exact same.ownMembers
    · exact same.ownMembers
  · intro n
    cases kind.isDeclared with
    | true =>
      change n ∈ addNew s1.declared name ↔ _
      rw [Scope.mem_addNew, same.declared]
      simp
    | false =>
      change n ∈ s1.declared ↔ _
      rw [same.declared]
      simp
  · grind
  · grind

lemma compile_routine_inv (is : phrase = .procedureBody ∨ phrase = .functionBody)
    (comp : compile src (.node phrase ts) s = .ok (ds, s')) :
    ∃ parts s1 id d, compileAll src ts (s.routine.declareAll (parameterNames ts)) =
        .ok (parts, s1) ∧ routine parts = .ok (id, d) ∧ ds = [d] ∧
      s' = (s.declare id).requireAll s1.imports := by
  rcases is with rfl | rfl
  all_goals
    obtain ⟨_, _, got, next⟩ := bind_inv comp
    cases got
    obtain ⟨⟨parts, s1⟩, _, ran, last⟩ := bind_inv next
    obtain ⟨inside, rfl⟩ := within_inv ran
    obtain ⟨⟨id, d⟩, _, lifted, returned⟩ := bind_inv last
    obtain ⟨made, rfl⟩ := lift_inv lifted
    cases returned
    exact ⟨parts, s1, id, d, inside, made, rfl, rfl⟩

attribute [local simp] MemberKind.isAssigned

lemma enters_routine (is : phrase = .procedureBody ∨ phrase = .functionBody)
    (leaf : IsLeaf word w) (id : IsIdentifier t)
    (comp : compile src (.node phrase (w :: t :: ts)) s = .ok (ds, s')) :
    Enters .routine t.capitals s s' ds := by
  obtain ⟨parts, s1, own, d, ran, made, rfl, rfl⟩ := compile_routine_inv is comp
  rw [leaf.skip] at ran
  obtain ⟨others, rfl, -⟩ := compileAll_identifier_inv id ran
  obtain ⟨rfl, params, body, rfl⟩ := routine_inv made
  exact enters_of_same (Scope.isOrder_same.refl s) s1.imports rfl (by simp)

lemma IsDeclaration.enters (is : IsDeclaration t kind name)
    (comp : compile src t s = .ok (ds, s')) : Enters kind name s s' ds := by
  cases is with
  | @var t ts id rest =>
    obtain ⟨_, s1, parts, whole⟩ := parts_of_compile comp
    obtain ⟨others, rfl, later⟩ := compileAll_identifier_inv id parts
    obtain ⟨value, drafted⟩ := @variableOf_named s1 t.capitals others
    obtain ⟨d, rfl, made⟩ := one_inv whole
    cases drafted.symm.trans made
    exact enters_of_same (same_compileAll rest later) [] rfl ⟨value, rfl⟩
  | @type w t ts word id rest =>
    obtain ⟨_, s1, parts, whole⟩ := parts_of_compile comp
    rw [word.skip] at parts
    obtain ⟨others, rfl, later⟩ := compileAll_identifier_inv id parts
    obtain ⟨d, rfl, made⟩ := one_inv whole
    obtain ⟨value, imported, rfl, rfl⟩ := typeDeclaration_inv made
    exact enters_of_same (same_compileAll rest later) imported rfl ⟨value, rfl⟩
  | @subtype w t ts word id rest =>
    obtain ⟨_, s1, parts, whole⟩ := parts_of_compile comp
    rw [word.skip] at parts
    obtain ⟨others, rfl, later⟩ := compileAll_identifier_inv id parts
    obtain ⟨d, rfl, lifted⟩ := one_inv whole
    obtain ⟨made, rfl⟩ := lift_inv lifted
    obtain ⟨value, rfl⟩ := subtypeOf_inv made
    exact enters_of_same (same_compileAll rest later) [] rfl ⟨value, rfl⟩
  | @cursor w t ts word id rest =>
    obtain ⟨params, s1, given, after⟩ := bind_inv comp
    obtain ⟨_, _, got, next⟩ := bind_inv after
    cases got
    obtain ⟨⟨parts, inner⟩, _, ran, last⟩ := bind_inv next
    obtain ⟨inside, rfl⟩ := within_inv ran
    obtain ⟨⟨own, d⟩, _, lifted, returned⟩ := bind_inv last
    obtain ⟨made, rfl⟩ := lift_inv lifted
    cases returned
    rw [word.skip] at inside
    obtain ⟨others, rfl, -⟩ := compileAll_identifier_inv id inside
    obtain ⟨rfl, value, rfl⟩ := cursor_inv made
    obtain ⟨tokens, rfl⟩ := id
    obtain ⟨token, -⟩ := word
    exact enters_of_same (same_cursorParameters rest given) [] rfl ⟨value, rfl⟩
  | @exception t w e id word semi =>
    obtain ⟨_, s1, parts, whole⟩ := parts_of_compile comp
    obtain ⟨others, rfl, later⟩ := compileAll_identifier_inv id parts
    rw [word.skip, semi.skip, compileAll_nil] at later
    cases later
    cases whole
    exact enters_of_same (Scope.isOrder_same.refl s) [] rfl
      (by simp [Draft.ident])
  | @procedure w t ts word id => exact enters_routine (.inl rfl) word id comp
  | @function w t ts word id => exact enters_routine (.inr rfl) word id comp
  | procedureSpec | functionSpec =>
    cases comp
    exact enters_of_same (Scope.isOrder_same.refl s) [] rfl (by simp)
  | pragma =>
    rw [compile] at comp
    split at comp <;>
    · cases comp
      exact enters_of_same (Scope.isOrder_same.refl s) [] rfl (by simp)

lemma IsMember.enters (is : IsMember t kind name) (comp : compile src t s = .ok (ds, s')) :
    Enters kind name s s' ds := by
  obtain ⟨phrase, known, declaration, rfl, decl⟩ := is
  have ordinary : ∀ phrase ∈ objects, phrase ∉ special := by decide
  obtain ⟨parts, s1, inner, whole⟩ := parts_of_compile comp (ordinary phrase known)
  have plain : assemble (.node phrase [declaration]) phrase parts s1 = .ok (parts, s1) := by
    fin_cases known <;> rfl
  cases plain.symm.trans whole
  exact decl.enters (compileAll_single_inv inner)

lemma members_entered (members : ∀ o ∈ ts, ∃ kind name, IsMember o kind name)
    (comp : compileAll src ts s = .ok (ds, s')) :
    s'.package = s.package ∧ s'.ownMembers = s.ownMembers ∧ (∀ n, n ∈ s'.declared ↔
        n ∈ s.declared ∨ ∃ o ∈ ts, ∃ kind, IsMember o kind n ∧ kind.isDeclared = true) ∧
      (∀ target value, .assign target value ∈ ds →
        ∃ o ∈ ts, ∃ kind n, IsMember o kind n ∧ kind.isAssigned = true ∧ target = .ident n) ∧
      ∀ o ∈ ts, ∀ kind n, IsMember o kind n → kind.isAssigned = true →
        ∃ value, .assign (.ident n) value ∈ ds := by
  induction ts generalizing s ds with
  | nil =>
    cases comp
    simp
  | cons t ts ih =>
    obtain ⟨here, later, s1, first, rest, rfl⟩ := compileAll_cons_inv comp
    obtain ⟨kind, name, is⟩ := members t mem_cons_self
    have enters {kind} {name} (is : IsMember t kind name) := is.enters first
    obtain ⟨pkg, ownMembers, declared, assigned, assigns⟩ :=
      ih (fun o mem => members o (mem_cons_of_mem _ mem)) rest
    refine ⟨pkg.trans (enters is).package, ownMembers.trans (enters is).ownMembers, ?_, ?_, ?_⟩
    · intro n
      have own : n ∈ s1.declared ↔
          n ∈ s.declared ∨ ∃ kind, IsMember t kind n ∧ kind.isDeclared = true := by
        constructor
        · intro known
          rcases ((enters is).declared n).1 known with before | ⟨rfl, adds⟩
          · exact .inl before
          · exact .inr ⟨kind, is, adds⟩
        · rintro (before | ⟨other, isOther, adds⟩)
          · exact ((enters is).declared n).2 (.inl before)
          · exact ((enters isOther).declared n).2 (.inr ⟨rfl, adds⟩)
      simp only [declared n, own, mem_cons, exists_eq_or_imp, or_assoc]
    · intro target value mem
      rcases mem_append.1 mem with early | late
      · obtain ⟨rfl, assigned⟩ := (enters is).assigned target value early
        exact ⟨t, mem_cons_self, kind, name, is, assigned, rfl⟩
      · grind
    · intro o mem other n isOther isAssigned
      rcases mem_cons.1 mem with rfl | inside
      · obtain ⟨value, early⟩ := (enters isOther).assigns isAssigned
        exact ⟨value, mem_append_left _ early⟩
      · grind

end

variable {s s' : Scope} (id : String)

def headings : List Nonterminal :=
  [.packageName, .schemaObjectName, .invokerRightsClause, .identifier, .idExpression, .regularId]

section

variable {members inner : List (Tree Token)}

mutual
theorem compile_heading (t) (heading : everyPhrase headings.contains t = true) :
    ∃ ds, compile src t s = .ok (ds, s) ∧ ∀ d ∈ ds, d.isName = true := by
  match t with
  | .leaf _ => exact ⟨[], by rw [compile]; rfl, nofun⟩
  | .node kind ts =>
    rw [everyPhrase, and_eq_true, contains_iff_mem] at heading
    obtain ⟨ds, comp, names⟩ := compileAll_headings ts heading.2
    by_cases word : kind = .regularId
    · subst word
      refine ⟨_, by rw [compile]; rfl, fun d mem => ?_⟩
      rw [mem_singleton.1 mem]
      rfl
    · have ordinary : kind ∉ special ∧ ∀ t s, assemble t kind ds s = .ok (ds, s) := by
        obtain ⟨known, -⟩ := heading
        fin_cases known
        all_goals first | exact absurd rfl word | exact ⟨by decide, fun _ _ => rfl⟩
      exact ⟨ds, compile_of_parts comp (ordinary.2 _ _) ordinary.1, names⟩

theorem compileAll_headings (ts) (heading : everyPhraseAll headings.contains ts = true) :
    ∃ ds, compileAll src ts s = .ok (ds, s) ∧ ∀ d ∈ ds, d.isName = true := by
  match ts with
  | [] => exact ⟨[], compileAll_nil, nofun⟩
  | t :: ts =>
    rw [everyPhraseAll, and_eq_true] at heading
    obtain ⟨ds, first, names⟩ := compile_heading t heading.1
    obtain ⟨es, rest, others⟩ := compileAll_headings ts heading.2
    refine ⟨ds ++ es, compileAll_cons first rest, fun d mem => ?_⟩
    exact (mem_append.1 mem).elim (names d) (others d)
end

lemma headings_inv (heading : everyPhraseAll headings.contains ts = true)
    (comp : compileAll src ts s = .ok (ds, s')) : s' = s ∧ ∀ d ∈ ds, d.isName = true := by
  obtain ⟨_, headed, names⟩ := @compileAll_headings s src ts heading
  grind

lemma mem_withoutLabel (noName : d.isName = false) :
    d ∈ withoutLabel isLabel parts ↔ d ∈ parts := by
  unfold withoutLabel
  split
  case _ id last =>
    split
    · obtain ⟨front, rfl⟩ := List.getLast?_eq_some_iff.1 last
      rw [List.dropLast_concat, mem_append, mem_singleton, or_iff_left]
      rintro rfl
      cases noName
    · exact Iff.rfl
  case _ => exact Iff.rfl

lemma mem_flatten_mapM {f : α → Except Reject (List String)} {xs : List α}
    (made : xs.mapM f = .ok names) (n) :
    n ∈ names.flatten ↔ ∃ x ∈ xs, ∃ own, f x = .ok own ∧ n ∈ own := by
  induction xs generalizing names with
  | nil =>
    cases made
    simp
  | cons x xs ih =>
    rw [mapM_cons] at made
    obtain ⟨own, first, made1⟩ := steps_of_bind made
    obtain ⟨others, rest, made2⟩ := steps_of_bind made1
    cases made2
    simp [ih rest, first]

lemma specification_names (made : specification ds = .ok (d, names)) (n) :
    n ∈ names ↔ ∃ target value, .assign target value ∈ ds ∧ nameOf target = .ok n := by
  obtain ⟨⟨name, rest⟩, split, made1⟩ := steps_of_bind made
  obtain ⟨id, named, made2⟩ := steps_of_bind made1
  obtain ⟨all, mapped, made3⟩ := steps_of_bind made2
  obtain rfl := first_inv split
  cases made3
  rw [mem_flatten_mapM mapped]
  constructor
  · rintro ⟨part, mem, own, given, inside⟩
    cases part
    case assign target value =>
      obtain ⟨m, nameTarget, given⟩ := steps_of_bind given
      cases given
      rw [mem_singleton.1 inside]
      exact ⟨target, value, mem_cons_of_mem _ ((mem_withoutLabel rfl).1 mem), nameTarget⟩
    all_goals
      cases given
      cases inside
  · rintro ⟨target, value, mem, nameTarget⟩
    rcases mem_cons.1 mem with rfl | inside
    · cases named
    · refine ⟨_, (mem_withoutLabel rfl).2 inside, [n], ?_, mem_singleton_self n⟩
      simp only [nameTarget]
      rfl

lemma compile_specification_inv (comp : compile src (.node .createPackage ts) s = .ok (ds, s')) :
    ∃ parts s1 d names, compileAll src ts s.enterSpecification = .ok (parts, s1) ∧
      specification parts = .ok (d, names) ∧ ds = [d] ∧ s' = s1.declareAll names := by
  obtain ⟨_, _, entered, next⟩ := bind_inv comp
  cases entered
  obtain ⟨parts, s1, inner, last⟩ := bind_inv next
  obtain ⟨⟨d, names⟩, _, lifted, returned⟩ := bind_inv last
  obtain ⟨made, rfl⟩ := lift_inv lifted
  cases returned
  exact ⟨parts, _, d, names, inner, made, rfl, rfl⟩

lemma specification_declared (heading : everyPhraseAll headings.contains header = true)
    (isMember : ∀ o ∈ members, ∃ kind name, IsMember o kind name)
    (closing : everyPhraseAll headings.contains footer = true)
    (comp : compile src (.node .createPackage (header ++ (members ++ footer))) s = .ok (ds, s'))
    (n) :
    n ∈ s'.declared ↔ n ∈ s.members ∨ ∃ o ∈ members, ∃ kind, IsMember o kind n ∧
      (kind.isDeclared = true ∨ kind = .subtype) := by
  obtain ⟨parts, s1, d, names, inner, made, rfl, rfl⟩ := compile_specification_inv comp
  obtain ⟨front, _, s2, opened, rest, rfl⟩ := compileAll_append_inv inner
  obtain ⟨middle, back, s3, entered, closed, rfl⟩ := compileAll_append_inv rest
  obtain ⟨rfl, frontNames⟩ := headings_inv heading opened
  obtain ⟨rfl, backNames⟩ := headings_inv closing closed
  obtain ⟨-, -, declared, assigned, assigns⟩ := members_entered isMember entered
  refine Scope.mem_addAllNew.trans ?_
  rw [declared n, specification_names made, or_assoc]
  refine or_congr_right ?_
  have among (target value) (mem : .assign target value ∈ front ++ (middle ++ back)) :
      .assign target value ∈ middle := by
    rcases mem_append.1 mem with early | later
    · cases frontNames _ early
    · rcases mem_append.1 later with inside | late
      · exact inside
      · cases backNames _ late
  constructor
  · rintro (⟨o, mem, kind, is, adds⟩ | ⟨target, value, mem, named⟩)
    · exact ⟨o, mem, kind, is, .inl adds⟩
    · obtain ⟨o, inside, kind, m, is, isAssigned, rfl⟩ :=
        assigned target value (among target value mem)
      cases named
      refine ⟨o, inside, kind, is, ?_⟩
      revert isAssigned
      cases kind <;> decide
  · rintro ⟨o, mem, kind, is, adds | rfl⟩
    · exact .inl ⟨o, mem, kind, is, adds⟩
    · obtain ⟨value, inside⟩ := assigns o mem .subtype n is rfl
      exact .inr ⟨_, value, mem_append_right _ (mem_append_left _ inside), rfl⟩

lemma body_declared (heading : everyPhraseAll headings.contains header = true)
    (isMember : ∀ o ∈ members, ∃ kind name, IsMember o kind name)
    (comp : compileAll src (header ++ members) (s.enterBody pkg) = .ok (ds, s')) :
    s'.package = some pkg ∧ s'.members = s'.declared ∧ ∀ n, n ∈ s'.declared ↔
      n ∈ s.declared ∨ n = pkg ∨
        ∃ o ∈ members, ∃ kind, IsMember o kind n ∧ kind.isDeclared = true := by
  obtain ⟨front, middle, s1, opened, entered, rfl⟩ := compileAll_append_inv comp
  obtain ⟨rfl, -⟩ := headings_inv heading opened
  obtain ⟨pkg', ownMembers, declared, -, -⟩ := members_entered isMember entered
  refine ⟨pkg', ?_, fun n => ?_⟩
  · rw [Scope.members, ownMembers]
    rfl
  · rw [declared n, ← or_assoc]
    exact or_congr_left Scope.mem_addNew

lemma Visits.routine_scope (visits : Visits src s (.node kind ts) s' u)
    (is : kind = .procedureBody ∨ kind = .functionBody)
    (free : lacks packages (.node kind ts) = true) (refers : Refers u inner name) :
    s'.package = s.package ∧ s'.ownMembers = some s.members := by
  cases visits with
  | here => rcases is with rfl | rfl <;> cases refers
  | inside passes split before there =>
    rcases is with rfl | rfl <;> simp [CompilesParts, special] at passes
  | counting => rcases is with same | same <;> cases same
  | routine is split before there =>
    obtain ⟨grows, inner⟩ := grows_before free split before
    obtain ⟨pkg, members⟩ := there.members inner grows.ownMembers
    exact ⟨pkg.trans grows.package, members⟩

lemma Visits.routine_members (visits : Visits src s t s' u) (is : IsMember t .routine own)
    (free : lacks packages t = true) (refers : Refers u inner name) :
    s'.package = s.package ∧ s'.ownMembers = some s.members := by
  obtain ⟨phrase, known, declaration, rfl, decl⟩ := is
  have entered : Visits src s declaration s' u := by
    cases visits with
    | here => cases refers <;> exact absurd known (by decide)
    | @inside _ _ front _ back _ _ _ _ _ passes split before there =>
      cases front with
      | nil => simp_all
      | cons first front => simp at split
    | counting => exact absurd known (by decide)
    | routine is => rcases is with rfl | rfl <;> exact absurd known (by decide)
  obtain ⟨kind, ts, rfl, isRoutine⟩ : ∃ kind ts, declaration = .node kind ts ∧
      (kind = .procedureBody ∨ kind = .functionBody) := by
    cases decl
    · exact ⟨_, _, rfl, .inl rfl⟩
    · exact ⟨_, _, rfl, .inr rfl⟩
  rw [lacks_node, lacksAll_cons] at free
  exact entered.routine_scope isRoutine free.2.1 refers

lemma resolve_of_package (inPackage : s.package = some pkg) (unlocal : name ∉ s.declared)
    (other : name ≠ pkg) :
    s.resolve name = if name ∈ s.members then .member (.ident pkg) name
      else if name ∈ Scope.standard then .member (.ident "PLGLOBALS") name
      else .ident name := by
  simp [Scope.resolve, inPackage, unlocal, Ne.symm other, Draft.ident]

lemma begins_member_iff (inPackage : s.package = some pkg) (unlocal : name ∉ s.declared)
    (other : name ≠ pkg) (begins : Begins (s.resolve name) d) :
    Begins (.member (.ident pkg) name) d ↔
      name ∈ s.members ∨ pkg = "PLGLOBALS" ∧ name ∈ Scope.standard := by
  rw [resolve_of_package inPackage unlocal other] at begins
  split at begins
  case isTrue known => exact iff_of_true begins (.inl known)
  case isFalse unknown =>
    split at begins
    case isTrue standard =>
      constructor
      · intro also
        refine .inr ⟨?_, standard⟩
        rcases also.linear begins with tie | tie
        all_goals
          cases tie with
          | refl => rfl
          | member value => cases value
      · grind
    case isFalse unusual =>
      refine iff_of_false (fun also => ?_) (by simp [unknown, unusual])
      rcases also.linear begins with first | second
      · cases first
      · cases second with
        | member value =>
          cases value
          exact other rfl

end

def Qualifies (package name : String) (ds : List Draft) : Prop :=
  ∃ d, ds = [d] ∧ Begins (.member (.ident package) name) d

/-- A reference in a package to a name that is not declared is taken for a member exactly if the
package is known to have it, and then imports nothing. -/
lemma Refers.qualifies_iff {inner : List (Tree Token)} (refers : Refers u inner name)
    (free : lacksAll packages inner = true) (parts : compileAll src inner s = .ok (es, s1))
    (comp : compile src u s = .ok (fs, s')) (inPackage : s.package = some package)
    (own : s.ownMembers = some known) (unlocal : name ∉ s1.declared) (other : name ≠ package) :
    (Qualifies package name fs ↔ name ∈ known ∨ package = "PLGLOBALS" ∧ name ∈ Scope.standard) ∧
      (Qualifies package name fs → s'.imports = s1.imports) := by
  obtain ⟨d, s2, rfl, begins, grows, grows', imported⟩ := refers.inv free parts comp
  have package2 : s2.package = some package := grows.package.trans inPackage
  have members2 : s2.members = known := by
    rw [Scope.members, grows.ownMembers, own]
    rfl
  have unlocal2 : name ∉ s2.declared := fun mem => unlocal (grows'.declared mem)
  constructor
  · rw [← members2, ← begins_member_iff package2 unlocal2 other begins]
    constructor
    · rintro ⟨e, same, begins⟩
      cases same
      exact begins
    · exact fun begins => ⟨d, rfl, begins⟩
  · rintro ⟨e, same, rooted⟩
    cases same
    rcases imported with ⟨-, rfl⟩ | ⟨-, root, found, rfl⟩
    · rfl
    · rw [← begins.rootOf, rooted.rootOf] at found
      cases found
      rw [if_pos (by simp [grows'.package, package2])]

/-- A reference in a routine of a package to a name that is not declared in the routine is taken for
a member of the package, and imports nothing, exactly if the name was declared when the routine
began: before the body, or by a variable, a type, a cursor or a routine before this one. Of what a
specification right before the body has, that is every variable, type, subtype and cursor. -/
theorem reference_qualified_iff {source package own name : String}
    {s s₁ s₂ s₃ s₄ : Scope} {header earlier inner : List (Tree Token)} {routine u : Tree Token}
    {ds es fs : List Draft} (heading : everyPhraseAll headings.contains header = true)
    (members : ∀ o ∈ earlier, ∃ kind n, IsMember o kind n)
    (before : compileAll source (header ++ earlier) (s.enterBody package) = .ok (ds, s₁))
    (is : IsMember routine .routine own) (free : lacks packages routine = true)
    (visits : Visits source s₁ routine s₂ u) (refers : Refers u inner name)
    (parts : compileAll source inner s₂ = .ok (es, s₃))
    (compiled : compile source u s₂ = .ok (fs, s₄)) (unlocal : name ∉ s₃.declared)
    (other : name ≠ package) :
    (Qualifies package name fs ∧ s₄.imports = s₃.imports ↔
      name ∈ s.declared ∨
        (∃ o ∈ earlier, ∃ kind, IsMember o kind name ∧ kind.isDeclared = true) ∨
        package = "PLGLOBALS" ∧ name ∈ Scope.standard) ∧
    ∀ {s₀ : Scope} {front specified back : List (Tree Token)} {gs : List Draft},
      everyPhraseAll headings.contains front = true →
      (∀ o ∈ specified, ∃ kind n, IsMember o kind n) →
      everyPhraseAll headings.contains back = true →
      compile source (.node .createPackage (front ++ (specified ++ back))) s₀ = .ok (gs, s) →
      (name ∈ s.declared ↔ name ∈ s₀.members ∨ ∃ o ∈ specified, ∃ kind, IsMember o kind name ∧
        (kind.isDeclared = true ∨ kind = .subtype)) := by
  refine ⟨?_, fun opened specified closed given =>
    specification_declared opened specified closed given name⟩
  obtain ⟨inPackage, known, declared⟩ := body_declared heading members before
  obtain ⟨package₂, members₂⟩ := visits.routine_members is free refers
  obtain ⟨qualified, kept⟩ := refers.qualifies_iff (refers.lacking (visits.lacking free)) parts
    compiled (package₂.trans inPackage) members₂ unlocal other
  rw [known, declared, or_assoc, or_iff_right other] at qualified
  rw [← qualified, and_iff_left_iff_imp]
  exact kept

open Core (leafOf nameTree referenceTree numeralTree)

def identifierTree (id : String) : Tree Token :=
  .node .identifier [.node .idExpression [nameTree id]]

def headingTrees (id : String) : List (Tree Token) :=
  [.node .packageName [identifierTree id], leafOf .IS "is"]

def declarationTree (id : String) : Tree Token :=
  .node .variableDeclaration
    [identifierTree id,
      .node .typeSpec [.node .datatype [.node .nativeDatatypeElement [leafOf .NUMBER "number"]]],
      leafOf .SEMICOLON ";"]

def routineTree (id : String) (statement : Tree Token) : Tree Token :=
  .node .procedureBody
    [leafOf .PROCEDURE "procedure", identifierTree id, leafOf .IS "is",
      .node .body
        [leafOf .BEGIN "begin",
          .node .seqOfStatements [.node .statement [statement], leafOf .SEMICOLON ";"],
          leafOf .END "end"],
      leafOf .SEMICOLON ";"]

def variableTree (id : String) : Tree Token := .node .packageObjBody [declarationTree id]

def procedureTree (id : String) (statement : Tree Token) : Tree Token :=
  .node .packageObjBody [routineTree id statement]

def assignmentTree (id : String) : Tree Token :=
  .node .assignmentStatement [referenceTree id, leafOf .ASSIGN_OP ":=", numeralTree "1"]

def callTree (id : String) : Tree Token :=
  .node .functionCall [.node .routineName [identifierTree id]]

lemma isIdentifier_tree : IsIdentifier (identifierTree id) := ⟨_, rfl⟩

lemma isMember_variable : IsMember (variableTree id) .variable (identifierTree id).capitals :=
  ⟨_, by decide, _, rfl, .var (isIdentifier_tree id) (by decide)⟩

lemma isMember_procedure (stmt) :
    IsMember (procedureTree id stmt) .routine (identifierTree id).capitals :=
  ⟨_, by decide, _, rfl, .procedure ⟨_, rfl⟩ (isIdentifier_tree id)⟩

section

variable {id : String} (there : Visits src s.routine stmt s' u)
include there

lemma visits_routine : Visits src s (routineTree id stmt) s' u := by
  refine .routine (.inl rfl) (show _ = [_, _, _] ++ _ :: _ from rfl) rfl ?_
  refine .inside (.inl (by decide)) (show _ = [_] ++ _ :: _ from rfl) rfl ?_
  refine .first (.inl (by decide)) ?_
  exact .first (.inl (by decide)) there

lemma visits_statement : Visits src s (procedureTree id stmt) s' u :=
  .first (.inl (by decide)) (visits_routine there)

end

lemma use_rooted (rooted : Scope.rootOf d = .ok root) :
    s.use d = .ok (if s.package == some root || s.declared.contains root then s
      else s.require root) := by
  unfold Scope.use
  rw [rooted]
  rfl

lemma assemble_element (used : s.use value = .ok s') :
    assemble t .generalElement [value] s = .ok ([value], s') := by
  change (element [value] >>= fun d => pure [d]) s = _
  simp only [element, first, bind, StateT.bind, liftM, monadLift, MonadLift.monadLift, StateT.lift,
    Except.bind, pure, Except.pure, get, getThe, MonadStateOf.get, StateT.get, used]
  rfl

def specifiedScope : Scope := { declared := ["X"], ownMembers := none }

def variableScope : Scope :=
  { package := some "P", declared := ["X", "P", "Y"], ownMembers := none }

theorem specified_variable_qualified :
    ∃ gs s ds s₁ fs s₄,
      compile "" (.node .createPackage (headingTrees "p" ++ ([variableTree "x"] ++ []))) {} =
        .ok (gs, s) ∧
      compileAll "" (headingTrees "p" ++ [variableTree "y"]) (s.enterBody "P") = .ok (ds, s₁) ∧
      Visits "" s₁ (procedureTree "q" (assignmentTree "x")) s₁.routine (referenceTree "x") ∧
      compile "" (referenceTree "x") s₁.routine = .ok (fs, s₄) ∧
      Qualifies "P" "X" fs ∧ s₄.imports = s₁.routine.imports := by
  obtain ⟨gs, specified⟩ : ∃ gs, compile "" (.node .createPackage
      (headingTrees "p" ++ ([variableTree "x"] ++ []))) {} = .ok (gs, specifiedScope) :=
    ⟨_, by with_unfolding_all rfl⟩
  obtain ⟨ds, before⟩ : ∃ ds, compileAll "" (headingTrees "p" ++ [variableTree "y"])
      (specifiedScope.enterBody "P") = .ok (ds, variableScope) := ⟨_, by with_unfolding_all rfl⟩
  have members (id) : ∀ o ∈ [variableTree id], ∃ kind n, IsMember o kind n := by
    intro o member
    rw [mem_singleton.1 member]
    exact ⟨_, _, isMember_variable id⟩
  have parts : compileAll "" [.node .generalElementPart [.node .idExpression [nameTree "x"]]]
      variableScope.routine = .ok ([.call (.member (.ident "P") "X") []], variableScope.routine) := by
    with_unfolding_all rfl
  have compiled : compile "" (referenceTree "x") variableScope.routine =
      .ok ([.call (.member (.ident "P") "X") []], variableScope.routine) := by
    with_unfolding_all rfl
  have visits : Visits "" variableScope (procedureTree "q" (assignmentTree "x"))
      variableScope.routine (referenceTree "x") :=
    visits_statement (.first (.inl (by decide)) .here)
  have names : namesOf [.node .idExpression [nameTree "x"]] .idExpression = ["X"] := by decide +kernel
  obtain ⟨qualified, -⟩ := reference_qualified_iff (by decide) (members "y") before
    (isMember_procedure "q" _) (by decide) visits (.reference names) parts compiled
    not_mem_nil (by decide)
  exact ⟨gs, _, ds, _, _, _, specified, before, visits, compiled, qualified.2 (.inl (by decide))⟩

/-- A procedure does not know itself: a call of itself is taken for a package to be imported. -/
theorem recursive_call_imported :
    ∃ ds s₁ fs s₄,
      compileAll "" (headingTrees "p") (Scope.enterBody {} "P") = .ok (ds, s₁) ∧
      Visits "" s₁ (procedureTree "q" (callTree "q")) s₁.routine
        (.node .routineName [identifierTree "q"]) ∧
      compile "" (.node .routineName [identifierTree "q"]) s₁.routine = .ok (fs, s₄) ∧
      ¬ Qualifies "P" "Q" fs ∧ "Q" ∈ s₄.imports := by
  have visits : Visits "" (Scope.enterBody {} "P") (procedureTree "q" (callTree "q"))
      (Scope.enterBody {} "P").routine (.node .routineName [identifierTree "q"]) :=
    visits_statement (.first (.inl (by decide)) .here)
  have imported : compile "" (.node .routineName [identifierTree "q"])
      (Scope.enterBody {} "P").routine =
        .ok ([.ident "Q"], (Scope.enterBody {} "P").routine.require "Q") := by
    with_unfolding_all rfl
  refine ⟨_, _, _, _, rfl, visits, imported, ?_, by decide⟩
  rintro ⟨d, same, begins⟩
  cases same
  cases begins

end BlockScript.Compile
