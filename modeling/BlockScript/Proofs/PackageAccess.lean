import BlockScript.Proofs.PackageMembers
import BlockScript.Target.OfDraft

/-!
References to a variable of a package. A routine of the package can name the variable alone, and it
can name the package before it, as blocks that come after the package must.
-/

namespace BlockScript.Compile

open Target

def IsPart (t : Tree Token) (name : String) : Prop :=
  (∃ tokens, t = .node .idExpression [.node .regularId tokens]) ∧ t.capitals = name

inductive Mentions (package name : String) : Bool → Tree Token → Prop where
  | both (outer : IsPart t package) (dot : IsLeaf .PERIOD w) (inner : IsPart u name) :
      Mentions package name true (.node .generalElement [.node .generalElementPart [t, w, u]])
  | alone (inner : IsPart t name) :
      Mentions package name false (.node .generalElement [.node .generalElementPart [t]])

/-- `InRoutine source package s earlier s' u`: in a routine of the body of a package the tree `u` is
compiled in the scope `s'`. The body began in the scope `s`, and its members before the routine are
`earlier`. -/
inductive InRoutine (source package : String) (s : Scope) (earlier : List (Tree Token)) :
    Scope → Tree Token → Prop where
  | mk (heading : everyPhraseAll headings.contains header = true)
      (members : ∀ o ∈ earlier, ∃ kind n, IsMember o kind n)
      (before : compileAll source (header ++ earlier) (s.enterBody package) = .ok (ds, s₁))
      (is : IsMember own .routine called) (free : lacks packages own = true)
      (visits : Visits source s₁ own s' u) : InRoutine source package s earlier s' u

/-- The tree `u` is compiled in the scope `s'` after the body of a package, with nothing of another
package in between. -/
inductive AfterBody (source package : String) : Scope → Tree Token → Prop where
  | mk (named : namesOf children .packageName = package :: others)
      (body : compile source (.node .createPackageBody children) s = .ok (ds, s₁))
      (inner : lacksAll packages children = true)
      (between : compileAll source later s₁ = .ok (es, s₂)) (free : lacksAll packages later = true)
      (visits : Visits source s₂ unit s' u) (outer : lacks packages unit = true) :
      AfterBody source package s' u

/-- Where a tree refers to a variable of a package. -/
inductive Access (source package name : String) : Scope → Tree Token → Prop where
  /-- In a routine the variable can be named alone, if it is known there and the routine has no
  other of the name. -/
  | alone (stands : InRoutine source package s earlier s' u)
      (known : name ∈ s.declared ∨
        ∃ o ∈ earlier, ∃ kind, IsMember o kind name ∧ kind.isDeclared = true)
      (unlocal : name ∉ s'.declared) (other : name ≠ package)
      (tree : Mentions package name false u) : Access source package name s' u
  | inside (stands : InRoutine source package s earlier s' u)
      (tree : Mentions package name true u) : Access source package name s' u
  | outside (stands : AfterBody source package s' u)
      (tree : Mentions package name true u) : Access source package name s' u

section

variable {s : Scope}

lemma IsPart.compiled (part : IsPart t name) : compile src t s = .ok ([.ident name], s) := by
  obtain ⟨⟨tokens, rfl⟩, rfl⟩ := part
  rw [Tree.capitals_single]
  exact compile_of_parts (compileAll_single (by rw [compile]; rfl)) rfl

lemma IsPart.namesOf (part : IsPart t name) :
    namesOf (t :: ts) .idExpression = name :: namesOf ts .idExpression := by
  obtain ⟨⟨tokens, rfl⟩, rfl⟩ := part
  rfl

lemma namesOf_leaf (leaf : IsLeaf kind t) (phrase : Nonterminal) :
    namesOf (t :: ts) phrase = namesOf ts phrase := by
  obtain ⟨token, -⟩ := leaf
  rfl

lemma Mentions.refers (mentions : Mentions package name qualified u) :
    ∃ inner, Refers u inner (if qualified then package else name) := by
  cases mentions with
  | both outer dot inner => exact ⟨_, .reference outer.namesOf⟩
  | alone inner => exact ⟨_, .reference inner.namesOf⟩

lemma Visits.package_eq (visits : Visits src s t s' u) (free : lacks packages t = true) :
    s'.package = s.package := by
  induction visits with
  | here => rfl
  | inside _ split before _ ih | counting _ split before _ ih | routine _ split before _ ih =>
    obtain ⟨grows, inner⟩ := grows_before free split before
    exact (ih inner).trans grows.package

lemma AfterBody.package_eq (stands : AfterBody src package s' u) : s'.package = some package := by
  obtain ⟨named, body, inner, between, free, visits, outer⟩ := stands
  rw [compile, named] at body
  obtain ⟨_, _, entered, next⟩ := bind_inv body
  cases entered
  obtain ⟨parts, s1, whole, returned⟩ := bind_inv next
  cases returned
  rw [visits.package_eq outer, (grows_compileAll free between).package,
    (grows_compileAll inner whole).package]
  rfl

lemma InRoutine.scope (stands : InRoutine src package s earlier s' u)
    (mentions : Mentions package name qualified u) :
    s'.package = some package ∧ ∀ n, n ∈ s'.members ↔ n ∈ s.declared ∨ n = package ∨
      ∃ o ∈ earlier, ∃ kind, IsMember o kind n ∧ kind.isDeclared = true := by
  obtain ⟨heading, members, before, is, free, visits⟩ := stands
  obtain ⟨inPackage, same, declared⟩ := body_declared heading members before
  obtain ⟨inner, refers⟩ := mentions.refers
  obtain ⟨package', members'⟩ := visits.routine_members is free refers
  refine ⟨package'.trans inPackage, fun n => ?_⟩
  rw [Scope.members, members', getD_some, same]
  exact declared n

lemma resolve_package (inPackage : s.package = some package) :
    s.resolve package = .ident package := by
  simp [Scope.resolve, inPackage]

lemma Access.resolve (access : Access src package name s' u) :
    Mentions package name true u ∧ s'.resolve package = .ident package ∨
      Mentions package name false u ∧ s'.resolve name = .member (.ident package) name := by
  cases access with
  | alone stands known unlocal other tree =>
    obtain ⟨inPackage, members⟩ := stands.scope tree
    have isMember : name ∈ s'.members := (members name).2 (known.imp id .inr)
    refine .inr ⟨tree, ?_⟩
    rw [resolve_of_package inPackage unlocal other, if_pos isMember]
  | inside stands tree => exact .inl ⟨tree, resolve_package (stands.scope tree).1⟩
  | outside stands tree => exact .inl ⟨tree, resolve_package stands.package_eq⟩

def memberDraft (package name : String) : Draft := .member (.ident package) name

lemma compile_element {first : String} (parts : compileAll src part s = .ok (ds, s))
    (named : namesOf part .idExpression = first :: path)
    (plain : hasPhrase part .functionArgument = false)
    (resolved : path.foldl Draft.member (s.resolve first) = memberDraft package name) :
    ∃ s', compile src (.node .generalElement [.node .generalElementPart part]) s =
      .ok ([.call (memberDraft package name) []], s') := by
  have called : assemble (.node .generalElementPart part) .generalElementPart ds s =
      .ok ([.call (memberDraft package name) []], s) := by
    change (elementPart part ds >>= fun d => pure [d]) s = _
    unfold elementPart
    rw [named, plain, ← resolved]
    rfl
  have inner : compileAll src [.node .generalElementPart part] s =
      .ok ([.call (memberDraft package name) []], s) :=
    compileAll_single (compile_of_parts parts called)
  exact ⟨_, compile_of_parts inner (assemble_element (use_rooted rfl))⟩

/-- Every reference to a variable of a package compiles to the member of the package. -/
lemma Access.compiled (access : Access src package name s u) :
    ∃ s', compile src u s = .ok ([.call (memberDraft package name) []], s') := by
  obtain ⟨mentions, resolved⟩ | ⟨mentions, resolved⟩ := access.resolve
  · cases mentions with
    | both outer dot inner =>
      have rest : compileAll src [_, _] s = .ok ([.ident name], s) :=
        dot.skip.trans (compileAll_single inner.compiled)
      refine compile_element (compileAll_cons outer.compiled rest) outer.namesOf ?_ ?_
      · obtain ⟨⟨_, rfl⟩, -⟩ := outer
        obtain ⟨_, -⟩ := dot
        obtain ⟨⟨_, rfl⟩, -⟩ := inner
        rfl
      · rw [namesOf_leaf dot, inner.namesOf, resolved]
        rfl
  · cases mentions with
    | alone inner =>
      refine compile_element (compileAll_single inner.compiled) inner.namesOf ?_ resolved
      obtain ⟨⟨_, rfl⟩, -⟩ := inner
      rfl

lemma Access.assigned (access : Access src package name s u)
    (comp : compile src (.node .assignmentStatement (u :: ts)) s = .ok (ds, s')) :
    ∃ value, ds = [.update (memberDraft package name) value] := by
  obtain ⟨parts, s1, whole, assembled⟩ := parts_of_compile comp
  obtain ⟨_, rest, s2, first, -, rfl⟩ := compileAll_cons_inv whole
  obtain ⟨s3, here⟩ := access.compiled
  cases here.symm.trans first
  cases assembled
  exact ⟨_, rfl⟩

end

variable (plain : isIdentifier package = true) (plain' : isIdentifier name = true)
include plain plain'

lemma toExpr_memberDraft :
    toExpr (memberDraft package name) = some (.attribute (.name package) name) := by
  have attr : identifier? (.text name) = some name := by
    simp [identifier?, label?, plain']
  rw [memberDraft, Draft.member, toExpr, toExpr_ident plain, attr]
  rfl

lemma toExpr_reading : toExpr (.call (memberDraft package name) []) =
      some (.call (.attribute (.name package) name) []) := by
  rw [toExpr, toExpr_memberDraft plain plain', toExprs]
  rfl

lemma toStmts_writing (written : toStmts (.update (memberDraft package name) value) = some stmts) :
    ∃ e, stmts = [.update (.attribute (.name package) name) e] := by
  rw [toStmts, toPlace, toExpr_memberDraft plain plain'] at written
  obtain ⟨target, place, rest⟩ := bind_eq_some_iff.1 written
  cases place
  obtain ⟨e, -, result⟩ := bind_eq_some_iff.1 rest
  cases result
  exact ⟨e, rfl⟩

end BlockScript.Compile
