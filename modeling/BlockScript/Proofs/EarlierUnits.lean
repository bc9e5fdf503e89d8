import BlockScript.Proofs.RoutineHygiene

/-!
What the units of a script leave known to the packages behind them.
-/

namespace BlockScript

structure Covers (foreign : String → Bool) (names others : List String) : Prop where
  fewer : others ⊆ names
  more : ∀ name ∈ names, name ∈ others ∨ foreign name = true

namespace Covers

lemma refl (names) : Covers foreign names names := ⟨List.Subset.refl names, fun _ mem => .inl mem⟩

lemma of_foreign (each : ∀ name ∈ names, foreign name = true) : Covers foreign names [] :=
  ⟨nil_subset names, fun name mem => .inr (each name mem)⟩

variable (covers : Covers foreign names others) (more : List String)
include covers

lemma add (here : ∀ name, name ∈ left ↔ name ∈ names ∨ name ∈ more)
    (there : ∀ name, name ∈ right ↔ name ∈ others ∨ name ∈ more) : Covers foreign left right := by
  constructor
  · intro name mem
    exact (here name).2 (((there name).1 mem).imp_left (covers.fewer ·))
  · intro name mem
    rcases (here name).1 mem with old | new
    · exact (covers.more name old).imp_left fun known => (there name).2 (.inl known)
    · exact .inl ((there name).2 (.inr new))

lemma addAllNew : Covers foreign (addAllNew names more) (addAllNew others more) :=
  covers.add more (fun _ => Scope.mem_addAllNew) fun _ => Scope.mem_addAllNew

lemma append : Covers foreign (names ++ more) (others ++ more) :=
  covers.add more (fun _ => mem_append) fun _ => mem_append

end Covers

namespace Scope

def knows (s : Scope) (name : String) : Bool :=
  s.declared.contains name || s.package == some name || s.members.contains name

structure Between (foreign : String → Bool) (s s' : Scope) : Prop where
  declared : Covers foreign s.declared s'.declared
  members : Covers foreign s.members s'.members
  package : s.package = s'.package ∨
    s'.package = none ∧ ∀ name, s.package = some name → foreign name = true

inductive Level where
  | specification
  | body
  | routine
deriving DecidableEq

structure Leaks (foreign : String → Bool) (level : Level) (s s' : Scope) : Prop
    extends Between foreign s s' where
  own : s.ownMembers.isSome = s'.ownMembers.isSome
  shadow : ∀ name ∈ s'.members, name ∈ s.declared → name ∈ s'.declared
  bare : level = .specification → s'.members ⊆ s'.declared
  same : level ≠ .specification → s.package = s'.package
  exact : level = .routine → s.declared = s'.declared

lemma Between.enterSpecification (between : Between foreign s s') :
    Leaks foreign .specification s.enterSpecification s'.enterSpecification where
  declared := between.members
  members := between.members
  package := between.package
  own := rfl
  shadow _ mem _ := mem
  bare _ := List.Subset.refl _
  same other := absurd rfl other
  exact is := by cases is

lemma Between.enterBody (between : Between foreign s s') (package : String) :
    Leaks foreign .body (s.enterBody package) (s'.enterBody package) where
  declared := between.declared.addAllNew [package]
  members := between.declared.addAllNew [package]
  package := .inl rfl
  own := rfl
  shadow _ mem _ := mem
  bare is := by cases is
  same _ := rfl
  exact is := by cases is

namespace Leaks

variable (leaks : Leaks foreign level s s')
include leaks

lemma declareAll (names) : Leaks foreign level (s.declareAll names) (s'.declareAll names) := by
  obtain ⟨⟨declared, members, package⟩, own, shadow, bare, same, exact⟩ := leaks
  have covers := declared.addAllNew names
  have exact' (is : level = .routine) :
      addAllNew s.declared names = addAllNew s'.declared names := by rw [exact is]
  simp only [Scope.members] at members shadow bare
  -- The members are the declared names, unless the scope has some of its own.
  cases there : s'.ownMembers with
  | none =>
    have here : s.ownMembers = none := by simpa [there] using own
    refine ⟨⟨covers, ?_, package⟩, own, ?_, ?_, same, exact'⟩
    all_goals simp only [Scope.declareAll, here, there]
    · exact covers
    · exact fun _ mem _ => mem
    · exact fun _ => List.Subset.refl _
  | some others =>
    obtain ⟨own', here⟩ : ∃ own, s.ownMembers = some own := by
      simpa [there, Option.isSome_iff_exists] using own
    simp only [here, there] at members shadow bare
    refine ⟨⟨covers, ?_, package⟩, own, ?_, ?_, same, exact'⟩
    all_goals simp only [Scope.declareAll, here, there]
    · exact members
    · intro name mem known
      exact mem_addAllNew.2 ((mem_addAllNew.1 known).imp_left (shadow name mem))
    · exact fun is name mem => mem_addAllNew.2 (.inl (bare is mem))

lemma requireAll (packages others : List String) :
    Leaks foreign level (s.requireAll packages) (s'.requireAll others) :=
  ⟨⟨leaks.declared, leaks.members, leaks.package⟩, leaks.own, leaks.shadow, leaks.bare, leaks.same,
    leaks.exact⟩

lemma cursor (params : List String) : Leaks foreign level (s.cursor params) (s'.cursor params) where
  declared := leaks.declared.append params
  members := .refl []
  package := .inl rfl
  own := rfl
  shadow _ member := by cases member
  bare _ := nil_subset _
  same _ := rfl
  exact is := by simp [Scope.cursor, leaks.exact is]

lemma routine (inside : level ≠ .specification) (names) :
    Leaks foreign .routine (s.routine.declareAll names) (s'.routine.declareAll names) where
  declared := .refl _
  members := leaks.members
  package := .inl (leaks.same inside)
  own := rfl
  shadow _ _ known := known
  bare is := by cases is
  same _ := leaks.same inside
  exact _ := rfl

lemma resolve (known : foreign name = true → s'.knows name = true) :
    s.resolve name = s'.resolve name := by
  -- What the code knows by itself is looked up in the same order in both scopes.
  by_cases here : name ∈ s'.declared ∨ s'.package = some name
  · have there : name ∈ s.declared ∨ s.package = some name := by
      rcases here with declared | package
      · exact .inl (leaks.declared.fewer declared)
      · exact .inr (leaks.package.elim (·.trans package) fun none => by simp [none] at package)
    simp [Scope.resolve, here, there]
  by_cases mem : name ∈ s'.members
  · have same : s.package = s'.package := by
      by_cases is : level = .specification
      · exact absurd (.inl (leaks.bare is mem)) here
      · exact leaks.same is
    have undeclared : name ∉ s.declared := fun declared =>
      here (.inl (leaks.shadow name mem declared))
    rw [not_or] at here
    simp [Scope.resolve, here, mem, same, undeclared, leaks.members.fewer mem]
  · -- Any other name is not foreign, so the first scope does not know it either.
    rw [not_or] at here
    have noForeign : foreign name ≠ true := by
      intro isForeign
      simpa [knows, here, mem] using known isForeign
    have undeclared : name ∉ s.declared := fun declared =>
      (leaks.declared.more name declared).elim here.1 noForeign
    have noMember : name ∉ s.members := fun inside =>
      (leaks.members.more name inside).elim mem noForeign
    have noPackage : s.package ≠ some name := fun package =>
      leaks.package.elim (fun same => here.2 (same ▸ package)) fun other =>
        noForeign (other.2 name package)
    simp [Scope.resolve, here, mem, undeclared, noMember, noPackage]

end Leaks

end Scope

namespace Compile
open Scope (Between Level Leaks)

mutual
/-- Whether a tree asks for foreign names only where they are known, and outside of routines has
them in queries only where they are declared. -/
def clear (foreign : String → Bool) (source : String) (outside : Bool) : Tree Token → Scope → Bool
  | .leaf _, _ => true
  | .node kind ts, s =>
    (asked source kind ts s).all (fun a => !foreign a.1 || a.2.knows a.1) &&
    (!outside || !queries.contains kind ||
      (Embedded.mentionedAll ts).all fun name => !foreign name || s.declared.contains name) &&
    (opening source kind ts s).all
      (clearAll foreign source (outside && !enclosed.contains kind) ts) &&
    (kind != .cursorDeclaration || clearParameters foreign source outside ts s)

def clearAll (foreign : String → Bool) (source : String) (outside : Bool) :
    List (Tree Token) → Scope → Bool
  | [], _ => true
  | t :: ts, s => clear foreign source outside t s &&
    (compile source t s).toOption.all fun r => clearAll foreign source outside ts r.2

def clearParameters (foreign : String → Bool) (source : String) (outside : Bool) :
    List (Tree Token) → Scope → Bool
  | [], _ => true
  | .node .parameterSpec us :: ts, s => clearAll foreign source outside us s &&
    (compileAll source us s).toOption.all fun r => clearParameters foreign source outside ts r.2
  | _ :: ts, s => clearParameters foreign source outside ts s
end

lemma throughout_of_clearAll
    (holds : ∀ t ∈ ts, ∀ s, clear foreign source outside t s = true → P t s)
    (cleared : clearAll foreign source outside ts s = true) : Throughout source P ts s := by
  induction ts generalizing s with
  | nil => trivial
  | cons t ts ih =>
    rw [clearAll, and_eq_true] at cleared
    obtain ⟨here, rest⟩ := forall_mem_cons.1 holds
    refine ⟨here s cleared.1, fun ds r ran => ih rest ?_⟩
    simpa [ran, Except.toOption] using cleared.2

lemma throughout_of_clearParameters (holds : ∀ us, .node .parameterSpec us ∈ ts → ∀ t ∈ us, ∀ s,
      clear foreign source outside t s = true → P t s)
    (cleared : clearParameters foreign source outside ts s = true) :
    ThroughoutParameters source P ts s := by
  induction ts generalizing s with
  | nil => trivial
  | cons t ts ih =>
    have rest {s} := @ih s fun us mem => holds us (mem_cons_of_mem t mem)
    by_cases is : t.kind? = some .parameterSpec
    · cases t with
      | leaf token => cases is
      | node kind us =>
        cases is
        rw [clearParameters, and_eq_true] at cleared
        refine ⟨throughout_of_clearAll (holds us mem_cons_self) cleared.1, fun ds r ran => rest ?_⟩
        simpa [ran, Except.toOption] using cleared.2
    · rw [throughoutParameters_skip is]
      rw [clearParameters] at cleared
      · exact rest cleared
      · rintro us rfl
        exact is rfl

lemma clear_node (cleared : clear foreign source outside (.node kind ts) s = true) :
    (∀ name r, asked source kind ts s = some (name, r) → foreign name = true →
      r.knows name = true) ∧
    (outside = true → kind ∈ queries → ∀ name ∈ Embedded.mentionedAll ts, foreign name = true →
      name ∈ s.declared) ∧
    (∀ r, opening source kind ts s = some r →
      clearAll foreign source (outside && !enclosed.contains kind) ts r = true) ∧
    (kind = .cursorDeclaration → clearParameters foreign source outside ts s = true) := by
  rw [clear] at cleared
  simp only [and_eq_true] at cleared
  grind

def Cleared (foreign : String → Bool) (source : String) (level : Level) (t : Tree Token)
    (s : Scope) : Prop :=
  (lacks units t = true ∧ (level = .specification → lacks routines t = true)) ∧
    clear foreign source (level != .routine) t s = true

section

variable (cleared : Cleared foreign source level (.node kind ts) s)
include cleared

lemma Cleared.inside (mem : t ∈ ts) (here : clear foreign source (level != .routine) t r = true) :
    Cleared foreign source level t r :=
  ⟨⟨lacks_inside cleared.1.1 t mem, fun is => lacks_inside (cleared.1.2 is) t mem⟩, here⟩

lemma Cleared.no_unit : kind ∉ units := (lacks_node.1 cleared.1.1).1

lemma Cleared.agreeOn (is : kind ∈ queries) (leaks : Leaks foreign level s' s) :
    Embedded.AgreeOn (Embedded.mentionedAll ts) s'.declared s.declared := by
  by_cases inRoutine : level = .routine
  · rw [leaks.exact inRoutine]
    exact fun _ _ => rfl
  · intro name mem
    have known := (clear_node cleared.2).2.1 (by simpa using inRoutine) is name mem
    have same : name ∈ s'.declared ↔ name ∈ s.declared :=
      ⟨fun here => (leaks.declared.more name here).elim id known, (leaks.declared.fewer ·)⟩
    simp [same]

end

lemma accords_leaks (level : Level) :
    Accords source source id (fun _ : Unit => Leaks foreign level) (Leaks foreign .routine)
      (Cleared foreign source level) (Cleared foreign source .routine) where
  requires packages leaks := leaks.requireAll packages packages
  imports root leaks := Scope.importing_of_requireAll leaks.requireAll root
  merges leaks _ := leaks.requireAll _ _
  declares _ _ _ _ _ names leaks := leaks.declareAll names
  asks cleared asks leaks := leaks.resolve ((clear_node cleared.2).1 _ _ asks)
  query cleared isQuery leaks := by
    rw [Tree.mapAll_id]
    exact Embedded.query_congr (cleared.agreeOn isQuery leaks)
  cursor names _ leaks := ⟨(), leaks.cursor names⟩
  routine names cleared is leaks :=
    leaks.routine (fun specified => (lacks_node.1 (cleared.1.2 specified)).1 is) names
  standalone cleared isUnit := absurd isUnit cleared.no_unit
  specification cleared := absurd (by decide) cleared.no_unit
  body _ cleared := absurd (by decide) cleared.no_unit
  script cleared := absurd (by decide) cleared.no_unit
  inside cleared noRoutine opens := by
    have parts := (clear_node cleared.2).2.2.1 _ opens
    rw [show enclosed.contains _ = false by simpa using noRoutine, Bool.not_false,
      Bool.and_true] at parts
    exact throughout_of_clearAll (fun _ mem _ => cleared.inside mem) parts
  enclosed cleared isRoutine opens := by
    have parts := (clear_node cleared.2).2.2.1 _ opens
    rw [show enclosed.contains _ = true by simpa using isRoutine, Bool.not_true,
      Bool.and_false] at parts
    exact throughout_of_clearAll (fun t mem _ here =>
      ⟨⟨lacks_inside cleared.1.1 t mem, fun is => by cases is⟩, here⟩) parts
  parameters cleared := throughout_of_clearParameters (fun us mem t inside s here =>
    ⟨⟨lacks_inside (lacks_inside cleared.1.1 _ mem) t inside,
      fun is => lacks_inside (lacks_inside (cleared.1.2 is) _ mem) t inside⟩, here⟩)
    ((clear_node cleared.2).2.2.2 rfl)

def isPackagePart : Tree Token → Bool
  | .leaf _ => true
  | .node .createPackage ts => lacksAll units ts && lacksAll routines ts
  | .node .createPackageBody ts => lacksAll units ts
  | _ => false

def isPackageUnit : Tree Token → Bool
  | .leaf _ => true
  | .node .unitStatement ts => ts.all isPackagePart
  | _ => false

def Emits (source : String) (ts : List (Tree Token)) : Except Reject (List Draft) → Prop
  | .ok units => ∃ s, compile source (.node .sqlScript ts) {} =
      .ok ([.program (imports [] s.imports ++ units)], s)
  | .error reason => compile source (.node .sqlScript ts) {} = .error reason

lemma emits (source ts) : Emits source ts ((compileAll source ts {}).map Prod.fst) := by
  rcases ran : compileAll source ts {} with reason | ⟨units, s⟩
  · change compile source (.node .sqlScript ts) {} = _
    rw [compile]
    simp [bind, StateT.bind, ran, Except.bind]
  · refine ⟨s.requireAll alwaysImported, ?_⟩
    rw [compile]
    simp only [bind, StateT.bind, ran]
    rfl

lemma matching_part (part : isPackagePart t = true)
    (cleared : clear foreign source true t s' = true) (between : Between foreign s s') :
    Matching (Between foreign) Eq (compile source t s) (compile source t s') := by
  unfold isPackagePart at part
  split at part
  · rw [compile]
    exact .ok _ between
  · rename_i ts
    rw [and_eq_true] at part
    have parts : clearAll foreign source true ts s'.enterSpecification = true :=
      (clear_node cleared).2.2.1 _ rfl
    have holds : Throughout source (Cleared foreign source .specification) ts s'.enterSpecification :=
      throughout_of_clearAll (fun u mem _ here =>
        ⟨⟨lacksAll_iff.1 part.1 u mem, fun _ => lacksAll_iff.1 part.2 u mem⟩, here⟩) parts
    rw [compile]
    exact .modified (.bind (matching_self (i := ()) (accords_leaks .routine)
      (accords_leaks .specification) holds between.enterSpecification) fun _ _ _ after _ =>
        .lifted (.refl _) fun made _ => .modified (.ok _ (after.declareAll made.2).toBetween))
  · rename_i ts
    rw [compile]
    cases named : namesOf ts .packageName with
    | nil => exact .error rfl
    | cons package others =>
      have parts : clearAll foreign source true ts (s'.enterBody package) = true :=
        (clear_node cleared).2.2.1 _ (by simp [opening, named])
      have holds : Throughout source (Cleared foreign source .body) ts (s'.enterBody package) :=
        throughout_of_clearAll (fun u mem _ here =>
          ⟨⟨lacksAll_iff.1 part u mem, fun is => by cases is⟩, here⟩) parts
      exact .modified (.bind (matching_self (i := ()) (accords_leaks .routine)
        (accords_leaks .body) holds (between.enterBody package)) fun _ _ _ after _ =>
          .ok _ after.toBetween)
  · cases part

lemma matching_each (each : ∀ t ∈ ts, ∀ s s', clear foreign source true t s' = true →
      Between foreign s s' →
      Matching (Between foreign) Eq (compile source t s) (compile source t s'))
    (cleared : clearAll foreign source true ts s' = true) (between : Between foreign s s') :
    Matching (Between foreign) Eq (compileAll source ts s) (compileAll source ts s') := by
  induction ts generalizing s s' with
  | nil => exact .ok _ between
  | cons t ts ih =>
    obtain ⟨here, rest⟩ := forall_mem_cons.1 each
    rw [clearAll, and_eq_true] at cleared
    refine .bind (here s s' cleared.1 between) fun _ r r' after ran =>
      .bind (ih rest ?_ after) fun _ _ _ last _ => .ok _ last
    simpa [ran, Except.toOption] using cleared.2

lemma matching_unit (unit : isPackageUnit t = true)
    (cleared : clear foreign source true t s' = true) (between : Between foreign s s') :
    Matching (Between foreign) Eq (compile source t s) (compile source t s') := by
  unfold isPackageUnit at unit
  split at unit
  · exact matching_part rfl cleared between
  · rename_i ts
    have parts : clearAll foreign source true ts s' = true :=
      (clear_node cleared).2.2.1 _ (opening_of_compilesParts (.inl (by decide)))
    exact .bind (matching_each (fun t mem s s' => matching_part (all_eq_true.1 unit t mem))
      parts between) fun _ _ _ after _ => .ok _ after
  · cases unit

lemma compileAll_append_eq (first : compileAll source ts s = .ok (ds, s1)) :
    compileAll source (ts ++ us) s = (compileAll source us s1).map fun r => (ds ++ r.1, r.2) := by
  induction ts generalizing s ds with
  | nil =>
    cases first
    exact (congrFun Except.map_id _).symm
  | cons t ts ih =>
    obtain ⟨here, later, r, head, others, rfl⟩ := compileAll_cons_inv first
    rw [cons_append, compileAll]
    simp only [bind, StateT.bind, head, Except.bind, ih others]
    cases compileAll source us s1 with
    | error reason => rfl
    | ok result => simp [Except.map, pure, StateT.pure, Except.pure]

/-- Packages compile to the same classes behind other units as alone, if they ask only for names
that the other units do not leave known, or that the packages know themselves. -/
theorem packages_behind_units {source' : String} {us us' : List (Tree Token)} {ds : List Draft}
    (first : compileAll source ts {} = .ok (ds, s))
    (same : List.Forall₂ (SameCode source source') us us')
    (packages : us.all isPackageUnit = true)
    (cleared : clearAll s.knows source true us {} = true) :
    ∃ result, Emits source' us' result ∧ Emits source (ts ++ us) (result.map (ds ++ ·)) := by
  have between : Between s.knows s {} := {
    declared := .of_foreign fun name member => by simp [Scope.knows, member]
    members := .of_foreign fun name member => by simp [Scope.knows, member]
    package := .inr ⟨rfl, fun name is => by simp [Scope.knows, is]⟩ }
  have matching : Matching (Between s.knows) Eq (compileAll source us s) (compileAll source us {}) :=
    matching_each (fun t member s s' => matching_unit (all_eq_true.1 packages t member))
      cleared between
  have whole := emits source (ts ++ us)
  rw [compileAll_append_eq first] at whole
  refine ⟨_, emits source' us', ?_⟩
  rw [← compileAll_sameCode same]
  generalize compileAll source us {} = alone at matching ⊢
  generalize compileAll source us s = behind at matching whole
  cases matching with
  | ok units after => exact whole
  | error alike =>
    cases alike
    exact whole

def bodyUnit (package : String) (items : List (Tree Token)) : Tree Token :=
  .node .unitStatement [.node .createPackageBody (headingTrees package ++ items)]

def earlierUnit : Tree Token := bodyUnit "j" [procedureTree "e" (callTree "f")]

def callingUnit (items : List (Tree Token)) : Tree Token :=
  bodyUnit "k" (items ++ [procedureTree "q" (callTree "e")])

theorem own_routine_called :
    ∃ ds result, Emits " " [earlierUnit] (.ok ds) ∧
      Emits " " [callingUnit [procedureTree "e" (callTree "f")]] result ∧
      Emits " " ([earlierUnit] ++ [callingUnit [procedureTree "e" (callTree "f")]])
        (result.map (ds ++ ·)) := by
  have clears : ((compileAll " " [earlierUnit] {}).toOption.any fun r => clearAll r.2.knows " " true
      [callingUnit [procedureTree "e" (callTree "f")]] {}) = true := by decide +kernel
  obtain ⟨⟨ds, s⟩, first, cleared⟩ := exists_of_any clears
  have alone := emits " " [earlierUnit]
  rw [first] at alone
  obtain ⟨result, own, behind⟩ := packages_behind_units first
    (.cons (sameCode_refl (by decide)) .nil) (by decide) cleared
  exact ⟨ds, result, alone, own, behind⟩

def lastCallsMember (units : List Draft) : Bool :=
  match units.getLast? with
  | some (.expr d) => endsWithMemberCall [d]
  | _ => false

/-- A routine that a package does not declare is taken for its member behind a package that declares
one of that name. -/
theorem foreign_routine_called :
    ∃ units others, Emits " " [callingUnit []] (.ok units) ∧
      Emits " " [earlierUnit, callingUnit []] (.ok others) ∧
      lastCallsMember units = false ∧ lastCallsMember others = true := by
  have own : ((compileAll " " [callingUnit []] {}).toOption.any fun r =>
      !lastCallsMember r.1) = true := by decide +kernel
  have foreign : ((compileAll " " [earlierUnit, callingUnit []] {}).toOption.any fun r =>
      lastCallsMember r.1) = true := by decide +kernel
  obtain ⟨⟨units, s⟩, alone, imported⟩ := exists_of_any own
  obtain ⟨⟨others, s'⟩, behind, called⟩ := exists_of_any foreign
  have first := emits " " [callingUnit []]
  have second := emits " " [earlierUnit, callingUnit []]
  rw [alone] at first
  rw [behind] at second
  exact ⟨units, others, first, second, by simpa using imported, called⟩

end Compile
end BlockScript
