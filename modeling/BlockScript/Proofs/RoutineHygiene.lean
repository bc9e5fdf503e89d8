import BlockScript.Proofs.PackageMembers
import BlockScript.Proofs.RoutinePieces

/-!
What a routine keeps to itself. A routine is compiled in a scope of its own, and of that scope only
the imports come out.
-/

namespace BlockScript

namespace Scope

structure Adds (name : String) (s s' : Scope) : Prop where
  package : s'.package = s.package
  ownMembers : s'.ownMembers = s.ownMembers
  declared : s'.declared = addNew s.declared name

variable {s : Scope}

lemma Adds.same (first : Adds name s s1) (second : Adds name s s2) : s1.Same s2 where
  package := second.package.trans first.package.symm
  ownMembers := second.ownMembers.trans first.ownMembers.symm
  declared := second.declared.trans first.declared.symm

lemma contains_addNew {names : List String} (differs : other ≠ name) :
    (addNew names name).contains other = names.contains other := by
  rw [eq_iff_iff, contains_iff_mem, contains_iff_mem, mem_addNew]
  exact or_iff_left differs

lemma Adds.resolve (adds : Adds name s s') (differs : other ≠ name) :
    s'.resolve other = s.resolve other := by
  have known : s'.declared.contains other = s.declared.contains other := by
    rw [adds.declared, contains_addNew differs]
  have mem : s'.members.contains other = s.members.contains other := by
    unfold members
    rw [adds.ownMembers]
    cases s.ownMembers with
    | none => exact known
    | some own => rfl
  rw [Scope.resolve, Scope.resolve, known, mem, adds.package]

lemma Same.members (same : s.Same s') : s'.members = s.members := by
  rw [Scope.members, Scope.members, same.ownMembers, same.declared]

lemma isCongruence_same : IsCongruence Same where
  declares names same := by
    refine ⟨same.package, same.ownMembers, ?_⟩
    simp [declareAll, same.declared]
  requires packages others same := ⟨same.package, same.ownMembers, same.declared⟩
  imports root same :=
    importing_of_requireAll (fun _ _ => ⟨same.package, same.ownMembers, same.declared⟩) root
  cursor params same := by
    refine ⟨rfl, rfl, ?_⟩
    simp [Scope.cursor, same.declared]

end Scope

namespace Compile
open Scope (Adds)

def SameCode (source source' : String) (t t' : Tree Token) : Prop :=
  ∃ text u move move', LiesIn text u ∧ Places text source move ∧ Places text source' move' ∧
    t = u.map move ∧ t' = u.map move'

section

variable (kind : Nonterminal)

lemma SameCode.compile (same : SameCode source source' t t') :
    compile source t = compile source' t' := by
  obtain ⟨text, u, move, move', lies, ⟨_, displaces, stands⟩, ⟨_, displaces', stands'⟩, rfl, rfl⟩ :=
    same
  rw [compile_displaced displaces stands u lies, compile_displaced displaces' stands' u lies]

lemma SameCode.namesOf (same : SameCode source source' t t') :
    namesOf [t] kind = namesOf [t'] kind := by
  obtain ⟨text, u, move, move', lies, ⟨_, displaces, stands⟩, ⟨_, displaces', stands'⟩, rfl, rfl⟩ :=
    same
  have here : Compile.namesOf (Tree.mapAll move [u]) kind = Compile.namesOf [u] kind :=
    namesOf_mapAll (Displaces.keepsWords displaces)
  have there : Compile.namesOf (Tree.mapAll move' [u]) kind = Compile.namesOf [u] kind :=
    namesOf_mapAll (Displaces.keepsWords displaces')
  exact here.trans there.symm

lemma compileAll_sameCode (same : Forall₂ (SameCode source source') ts ts') :
    compileAll source ts = compileAll source' ts' := by
  induction same with
  | nil => rw [compileAll, compileAll]
  | cons first _ ih => rw [compileAll, compileAll, first.compile, ih]

lemma namesOf_append (ts us) : namesOf (ts ++ us) kind = namesOf ts kind ++ namesOf us kind := by
  rw [namesOf, namesOf, namesOf, filter_append, map_append]

lemma namesOf_sameCode (same : Forall₂ (SameCode source source') ts ts') :
    namesOf ts kind = namesOf ts' kind := by
  induction same with
  | nil => rfl
  | @cons t t' ts ts' first _ ih =>
    rw [← List.singleton_append, ← @List.singleton_append _ t', namesOf_append, namesOf_append,
      first.namesOf, ih]

lemma accords_same : Accords source source id (fun _ : Unit => Scope.Same) Eq
      (fun t _ => lacks [.sqlScript] t = true) fun _ _ => True where
  requires packages := Scope.isCongruence_same.requires packages packages
  imports root := Scope.isCongruence_same.imports root
  merges same _ := Scope.isCongruence_same.requires _ _ same
  declares _ _ _ _ _ names := Scope.isCongruence_same.declares names
  asks _ _ same := by
    rw [Scope.resolve, Scope.resolve, same.package, same.members, same.declared]
  query _ _ same := by rw [Tree.mapAll_id, same.declared]
  cursor names _ same := ⟨(), Scope.isCongruence_same.cursor names same⟩
  routine names _ _ same := by rw [Scope.routine, Scope.routine, same.package, same.members]
  standalone _ _ same := by rw [Scope.standalone, Scope.standalone, same.declared]
  specification _ same := ⟨same.package, rfl, same.members⟩
  body package _ same := by
    refine ⟨rfl, rfl, ?_⟩
    simp [Scope.enterBody, Scope.declare, same.declared]
  script lack := absurd (mem_singleton_self _) (lacks_node.1 lack).1
  inside lack _ _ := throughout_of_forall (lacks_inside lack) _
  enclosed _ _ _ := throughout_of_forall (fun _ _ => trivial) _
  parameters lack := throughoutParameters_of_forall
    (fun _ mem => lacks_inside (lacks_inside lack _ mem)) _

lemma compileAll_same (same : s.Same s') (inner : lacksAll [.sqlScript] ts = true) :
    Matching Scope.Same Eq (compileAll source ts s) (compileAll source ts s') :=
  matching_self (i := ()) accords_refl accords_same (throughout_of_forall (lacksAll_iff.1 inner) s')
    same

end

def itemFrames : List Nonterminal := [.packageObjBody, .declareSpec]

/-- A routine with a regular name, as an item of a package body or of a section of declarations. -/
inductive IsRoutineItem (name : String) : Tree Token → Prop where
  | mk (framed : frame ∈ itemFrames) (is : kind ∈ routines)
      (id : IsIdentifier t) (named : t.capitals = name) :
      IsRoutineItem name (.node frame [.node kind (.leaf word :: t :: inside)])

def IsFunction (name : String) (d : Draft) : Prop :=
  ∃ parameters body, d = .function name parameters body []

lemma IsRoutineItem.compiled (item : IsRoutineItem name p)
    (comp : compile source p s = .ok (ds, s')) :
    ∃ f, ds = [f] ∧ IsFunction name f ∧ s.Adds name s' := by
  obtain ⟨framed, is, id, named⟩ := item
  rename_i frame kind t word inside
  have ordinary : ∀ frame ∈ itemFrames, frame ∉ special := by decide
  obtain ⟨parts, s1, inner, whole⟩ := parts_of_compile comp (ordinary frame framed)
  have plain : assemble (.node frame [.node kind (.leaf word :: t :: inside)]) frame parts s1 =
      .ok (parts, s1) := by
    fin_cases framed <;> rfl
  cases plain.symm.trans whole
  obtain ⟨drafts, inner, own, f, ran, made, rfl, rfl⟩ :=
    compile_routine_inv (by simpa [routines] using is) (compileAll_single_inv inner)
  rw [compileAll_leaf] at ran
  obtain ⟨others, rfl, -⟩ := compileAll_identifier_inv id ran
  obtain ⟨rfl, params, body, rfl⟩ := routine_inv made
  subst named
  exact ⟨_, rfl, ⟨params, body, rfl⟩, rfl, rfl, rfl⟩

lemma compileAll_item (item : IsRoutineItem name p)
    (comp : compileAll source (front ++ p :: back) s = .ok (ds, s')) :
    ∃ before f after s1 s2, compileAll source front s = .ok (before, s1) ∧
      compile source p s1 = .ok ([f], s2) ∧ compileAll source back s2 = .ok (after, s') ∧
      IsFunction name f ∧ s1.Adds name s2 ∧ ds = before ++ f :: after := by
  obtain ⟨before, rest, s1, first, later, rfl⟩ := compileAll_append_inv comp
  obtain ⟨own, after, s2, here, last, rfl⟩ := compileAll_cons_inv later
  obtain ⟨f, rfl, function, adds⟩ := item.compiled here
  exact ⟨before, f, after, s1, s2, first, here, last, function, adds, rfl⟩

/-- Where routines are declared: in the body of a package, in a sequence of declarations, or in a
block. -/
inductive Section where
  | package (name : String)
  | sequence
  | block

namespace Section

inductive Is : Section → Tree Token → Prop where
  | package (named : namesOf ts .packageName = name :: others) :
      Is (.package name) (.node .createPackageBody ts)
  | sequence : Is .sequence (.node .seqOfDeclareSpecs ts)
  | block : Is .block (.node .block ts)

def enter : Section → Scope → Scope
  | package name, s => s.enterBody name
  | _, s => s

def item : Section → Draft → Draft
  | package _, d => asStatic d
  | _, d => d

def items : Section → List Draft → List Draft
  | package name, parts => (withoutLabel (· == name) parts).tail.map asStatic
  | _, parts => parts

def whole : Section → List Draft → List Draft
  | package name, items => [.classDef name items [.ident (specificationName name)]]
  | _, items => items

def names : Section → List Draft → Except Reject (List String)
  | sequence, parts => declaredNames parts
  | _, _ => .ok []

lemma Is.compiled {sec : Section} (is : sec.Is (.node kind ts))
    (comp : compile source (.node kind ts) s = .ok (ds, s')) :
    ∃ parts s1 names, compileAll source ts (sec.enter s) = .ok (parts, s1) ∧
      ds = sec.whole (sec.items parts) ∧ sec.names parts = .ok names ∧
      s' = s1.declareAll names := by
  cases is with
  | package named =>
    rw [compile] at comp
    simp only [named] at comp
    obtain ⟨_, _, entered, rest⟩ := bind_inv comp
    cases entered
    obtain ⟨parts, s1, ran, returned⟩ := bind_inv rest
    cases returned
    exact ⟨parts, _, [], ran, rfl, rfl, rfl⟩
  | sequence =>
    obtain ⟨parts, s1, ran, made⟩ := parts_of_compile comp
    obtain ⟨names, _, lifted, rest⟩ := bind_inv made
    obtain ⟨found, rfl⟩ := lift_inv lifted
    cases rest
    exact ⟨_, _, names, ran, rfl, found, rfl⟩
  | block =>
    obtain ⟨parts, s1, ran, made⟩ := parts_of_compile comp
    cases made
    exact ⟨_, _, [], ran, rfl, rfl, rfl⟩

end Section

/-- Two lists have one draft and another at the same place and agree in the others, or neither of
the two drafts is there and they agree. -/
inductive AgreeBut (f f' : Draft) : List Draft → List Draft → Prop where
  | there (before after : List Draft) : AgreeBut f f' (before ++ f :: after) (before ++ f' :: after)
  | absent (ds : List Draft) : AgreeBut f f' ds ds

lemma AgreeBut.tail (agree : AgreeBut f f' ds ds') : AgreeBut f f' ds.tail ds'.tail := by
  cases agree with
  | there before after =>
    cases before with
    | nil => exact .absent after
    | cons d before => exact .there before after
  | absent ds => exact .absent ds.tail

lemma AgreeBut.map (g : Draft → Draft) (agree : AgreeBut f f' ds ds') :
    AgreeBut (g f) (g f') (ds.map g) (ds'.map g) := by
  cases agree with
  | there before after =>
    rw [map_append, map_append]
    exact .there (before.map g) (after.map g)
  | absent ds => exact .absent (ds.map g)

lemma withoutLabel_behind (noName : f.isName = false) (before after) :
    withoutLabel isLabel (before ++ f :: after) = before ++ f :: withoutLabel isLabel after := by
  rcases List.eq_nil_or_concat after with rfl | ⟨front, d, rfl⟩
  · rw [withoutLabel, List.getLast?_concat]
    cases f with
    | name id => cases noName
    | _ => rfl
  · have regrouped : before ++ f :: (front ++ [d]) = (before ++ f :: front) ++ [d] := by simp
    rw [List.concat_eq_append, withoutLabel, withoutLabel, regrouped, List.getLast?_concat,
      List.getLast?_concat, List.dropLast_concat, List.dropLast_concat, ← regrouped]
    split
    · split <;> rfl
    · rfl

lemma Section.agree (sec : Section) (is : IsFunction name f) (is' : IsFunction name f')
    (before after) :
    AgreeBut (sec.item f) (sec.item f') (sec.items (before ++ f :: after))
      (sec.items (before ++ f' :: after)) := by
  obtain ⟨params, body, rfl⟩ := is
  obtain ⟨params', body', rfl⟩ := is'
  cases sec with
  | package name =>
    simp only [Section.items, Section.item]
    rw [withoutLabel_behind (by rfl), withoutLabel_behind (by rfl)]
    exact (AgreeBut.there before _).tail.map asStatic
  | sequence | block => exact .there before after

lemma Section.names_eq (sec : Section) (is : IsFunction name f) (is' : IsFunction name f')
    (before after) :
    sec.names (before ++ f :: after) = sec.names (before ++ f' :: after) := by
  obtain ⟨params, body, rfl⟩ := is
  obtain ⟨params', body', rfl⟩ := is'
  cases sec with
  | sequence => simp [Section.names, declaredNames]
  | package | block => rfl

section

variable {source source' name : String} {front front' back back' : List (Tree Token)}

lemma IsRoutineItem.namesOf_between (item : IsRoutineItem name p) :
    namesOf (front ++ p :: back) .packageName =
      namesOf front .packageName ++ namesOf back .packageName := by
  obtain ⟨framed, -, -, -⟩ := item
  rename_i frame kind t word inside
  have other : ∀ frame ∈ itemFrames, frame ≠ .packageName := by decide
  simp [namesOf, Tree.kind?, other frame framed]

lemma Section.Is.other_version {sec : Section} (is : sec.Is (.node kind (front ++ p :: back)))
    (fronts : Forall₂ (SameCode source source') front front')
    (backs : Forall₂ (SameCode source source') back back') (item : IsRoutineItem name p)
    (item' : IsRoutineItem name p') :
    sec.Is (.node kind (front' ++ p' :: back')) := by
  cases is with
  | package named =>
    rw [item.namesOf_between, namesOf_sameCode _ fronts, namesOf_sameCode _ backs,
      ← item'.namesOf_between] at named
    exact .package named
  | sequence => exact .sequence
  | block => exact .block

/-- Routines are compiled independently of each other's insides. Two versions of a package body, a
sequence of declarations or a block differ in what stands inside one routine with a regular name,
and both compile. Then their items are the same, but for that routine; behind the routine its name
is declared and nothing else, no other name stands for anything else than before it, and behind the
whole section the same names are known. Whole scripts, which show what they import, do not stand
inside of sections. -/
theorem other_items_unchanged {sec : Section} {kind : Nonterminal} {s s₃ s₃' : Scope}
    {ds ds' : List Draft} (is : sec.Is (.node kind (front ++ p :: back)))
    (fronts : List.Forall₂ (SameCode source source') front front')
    (backs : List.Forall₂ (SameCode source source') back back')
    (item : IsRoutineItem name p) (item' : IsRoutineItem name p')
    (inner : lacksAll [.sqlScript] back = true)
    (compiled : compile source (.node kind (front ++ p :: back)) s = .ok (ds, s₃))
    (compiled' : compile source' (.node kind (front' ++ p' :: back')) s = .ok (ds', s₃')) :
    ∃ before s₁ f f' s₂ s₂' items items',
      compileAll source front (sec.enter s) = .ok (before, s₁) ∧
      compileAll source' front' (sec.enter s) = .ok (before, s₁) ∧
      compile source p s₁ = .ok ([f], s₂) ∧ compile source' p' s₁ = .ok ([f'], s₂') ∧
      ds = sec.whole items ∧ ds' = sec.whole items' ∧
      AgreeBut (sec.item f) (sec.item f') items items' ∧
      s₁.Adds name s₂ ∧ s₁.Adds name s₂' ∧
      (∀ other, other ≠ name →
        s₂.resolve other = s₁.resolve other ∧ s₂'.resolve other = s₁.resolve other) ∧
      s₃.Same s₃' := by
  obtain ⟨parts, last, names, ran, rfl, declared, rfl⟩ := is.compiled compiled
  obtain ⟨parts', last', names', ran', rfl, declared', rfl⟩ :=
    (is.other_version fronts backs item item').compiled compiled'
  obtain ⟨before, f, after, s₁, s₂, first, here, rest, function, adds, rfl⟩ :=
    compileAll_item item ran
  obtain ⟨_, f', _, _, s₂', first', here', rest', function', adds', rfl⟩ :=
    compileAll_item item' ran'
  -- Up to the routine the versions are the same.
  rw [← compileAll_sameCode fronts, first] at first'
  cases first'
  -- Behind it they differ at most in what they import.
  have later : Matching Scope.Same Eq (compileAll source back s₂) (compileAll source back s₂') :=
    compileAll_same (adds.same adds') inner
  rw [← compileAll_sameCode backs] at rest'
  rw [rest, rest'] at later
  cases later with
  | ok after same =>
    rw [sec.names_eq function function', declared'] at declared
    cases declared
    exact ⟨before, s₁, f, f', s₂, s₂', _, _, first, compileAll_sameCode fronts ▸ first, here, here',
      rfl, rfl, sec.agree function function' before after, adds, adds',
      fun other differs => ⟨adds.resolve differs, adds'.resolve differs⟩,
      Scope.isCongruence_same.declares names same⟩

end

open Core (leafOf nameTree)

def labelledTree (name : Tree Token) (label : String) : Tree Token :=
  .node .packageObjBody
    [.node .procedureBody
      [leafOf .PROCEDURE "procedure", name, leafOf .IS "is",
        .node .body
          [leafOf .BEGIN "begin",
            .node .seqOfStatements
              [.node .labelDeclaration [.node .labelName [.node .idExpression [nameTree label]]],
                .node .statement [.node .nullStatement [leafOf .NULL "null"]],
                leafOf .SEMICOLON ";"],
            leafOf .END "end"],
        leafOf .SEMICOLON ";"]]

def packageTree (p : Tree Token) : Tree Token :=
  .node .createPackageBody (headingTrees "k" ++ p :: [procedureTree "q" (callTree "e")])

lemma sameCode_refl (lies : LiesIn source t) : SameCode source source t t := by
  have places : Places source source id := ⟨0, fun _ => ⟨rfl, rfl, rfl, rfl⟩, List.prefix_rfl⟩
  exact ⟨source, t, id, id, lies, places, places, t.map_id.symm, t.map_id.symm⟩

lemma exists_of_any {x : Except Reject α} (holds : x.toOption.any check = true) :
    ∃ a, x = .ok a ∧ check a = true := by
  cases x with
  | error reason => cases holds
  | ok a => exact ⟨a, rfl, holds⟩

theorem label_unseen :
    ∃ items items' f f' s s',
      compile " " (packageTree (labelledTree (identifierTree "p") "e")) {} =
        .ok ((Section.package "K").whole items, s) ∧
      compile " " (packageTree (labelledTree (identifierTree "p") "f")) {} =
        .ok ((Section.package "K").whole items', s') ∧
      AgreeBut (asStatic f) (asStatic f') items items' ∧ s.Same s' := by
  have is : (Section.package "K").Is (packageTree (labelledTree (identifierTree "p") "e")) :=
    .package (show _ = ["K"] by decide +kernel)
  have item (label) : IsRoutineItem "P" (labelledTree (identifierTree "p") label) :=
    .mk (by decide) (by decide) (isIdentifier_tree "p") (by decide +kernel)
  have front : List.Forall₂ (SameCode " " " ") (headingTrees "k") (headingTrees "k") :=
    .cons (sameCode_refl (by decide)) (.cons (sameCode_refl (by decide)) .nil)
  have back : List.Forall₂ (SameCode " " " ") [procedureTree "q" (callTree "e")]
      [procedureTree "q" (callTree "e")] := .cons (sameCode_refl (by decide)) .nil
  have compiles : ((compile " " (packageTree (labelledTree (identifierTree "p") "e"))
      {}).toOption.any fun _ => true) = true := by decide +kernel
  have compiles' : ((compile " " (packageTree (labelledTree (identifierTree "p") "f"))
      {}).toOption.any fun _ => true) = true := by decide +kernel
  obtain ⟨⟨ds, s⟩, compiled, -⟩ := exists_of_any compiles
  obtain ⟨⟨ds', s'⟩, compiled', -⟩ := exists_of_any compiles'
  obtain ⟨_, _, f, f', _, _, items, items', -, -, -, -, rfl, rfl, agree, -, -, -, same⟩ :=
    other_items_unchanged is front back (item "e") (item "f") (by decide) compiled compiled'
  exact ⟨items, items', f, f', s, s', compiled, compiled', agree, same⟩

def endsWithMemberCall : List Draft → Bool
  | [.classDef _ items _] =>
    match items.getLast? with
    | some (.function _ _ [.expr (.call (.attribute _ _) _)] _) => true
    | _ => false
  | _ => false

def quotedTree (id : String) : Tree Token :=
  .node .identifier [.node .idExpression [leafOf .DELIMITED_ID id]]

/-- A routine with a quoted name is known by a label inside it, and the routine behind it calls that
label as a member of the package. -/
theorem label_seen :
    ∃ ds ds' s s',
      compile " " (packageTree (labelledTree (quotedTree "\"p\"") "e")) {} = .ok (ds, s) ∧
      compile " " (packageTree (labelledTree (quotedTree "\"p\"") "f")) {} = .ok (ds', s') ∧
      endsWithMemberCall ds = true ∧ endsWithMemberCall ds' = false ∧
      "E" ∈ s.declared ∧ "E" ∉ s'.declared := by
  have known : ((compile " " (packageTree (labelledTree (quotedTree "\"p\"") "e"))
      {}).toOption.any fun r => endsWithMemberCall r.1 ∧ "E" ∈ r.2.declared) = true := by
    decide +kernel
  have unknown : ((compile " " (packageTree (labelledTree (quotedTree "\"p\"") "f"))
      {}).toOption.any fun r => endsWithMemberCall r.1 = false ∧ "E" ∉ r.2.declared) = true := by
    decide +kernel
  obtain ⟨⟨ds, s⟩, compiled, calls⟩ := exists_of_any known
  obtain ⟨⟨ds', s'⟩, compiled', imports⟩ := exists_of_any unknown
  obtain ⟨member, declared⟩ := of_decide_eq_true calls
  obtain ⟨noMember, undeclared⟩ := of_decide_eq_true imports
  exact ⟨ds, ds', s, s', compiled, compiled', member, noMember, declared, undeclared⟩

end Compile
end BlockScript
