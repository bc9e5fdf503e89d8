import BlockScript.Proofs.Placeholders
import BlockScript.Proofs.Resemblance

/-!
Compiling in two scopes that differ in some declared names only.
-/

namespace BlockScript

namespace Embedded

mutual
def mentioned : Tree Token → List String
  | .leaf _ => []
  | .node kind children =>
    if kind = .regularId then [(Tree.node kind children).capitals] else mentionedAll children

def mentionedAll : List (Tree Token) → List String
  | [] => []
  | t :: ts => mentioned t ++ mentionedAll ts
end

def RootsAmong (names : List String) (found : List Found) : Prop :=
  ∀ r, .reference r ∈ found → r.root ∈ names

variable {declared : List String}

lemma RootsAmong.append (first : RootsAmong names found) (rest : RootsAmong more others) :
    RootsAmong (names ++ more) (found ++ others) := by
  intro r mem
  rcases mem_append.1 mem with here | later
  · exact mem_append_left _ (first r here)
  · exact mem_append_right _ (rest r later)

lemma joinParts_rootsAmong {joined : List Found} (among : RootsAmong names found)
    (made : joinParts found = .ok joined) : RootsAmong names joined := by
  unfold joinParts at made
  split at made
  · cases made
    exact among
  · cases made
    exact among
  · rename_i record field
    cases made
    intro r mem
    cases mem_singleton.1 mem
    exact among record mem_cons_self
  · cases made
  · cases made
    exact nofun

lemma assemble_eq : assemble src declared t found = (do
    let refs ← found.mapM (relative (origin t))
    return bind (spannedText src t) refs declared) :=
  rfl

lemma assemble_rootsAmong (among : RootsAmong names found)
    (made : assemble src declared t found = .ok (text, refs)) :
    RootsAmong names (.query text :: refs.map .reference) := by
  obtain ⟨moved, mapped, whole⟩ := Compile.steps_of_bind made
  obtain ⟨rs, rfl, rfl⟩ := mapM_relative mapped
  cases whole
  intro r mem
  obtain ⟨q, inside, is⟩ := mem_map.1 ((mem_cons.1 mem).resolve_left nofun)
  cases is
  have root := mem_roots_bound.1 (mem_map_of_mem inside)
  rw [declaredAmong_moved, List.map_map] at root
  obtain ⟨p, kept, same⟩ := mem_map.1 root
  rw [← same]
  exact among p (mem_map_of_mem (mem_filter.1 kept).1)

mutual
theorem collect_rootsAmong (t) (collected : collect src declared t = .ok found) :
    RootsAmong (mentioned t) found := by
  match t with
  | .leaf _ =>
    cases collected
    exact nofun
  | .node kind children =>
    have plain (ordinary : kind ≠ .regularId) : mentioned (.node kind children) =
        mentionedAll children := by
      rw [mentioned, if_neg ordinary]
    unfold collect at collected
    split at collected
    · dsimp only at collected
      split at collected
      · cases collected
        intro r mem
        cases mem_singleton.1 mem
        exact mem_cons_self
      · cases collected
    · obtain ⟨parts, given, joined⟩ := Compile.steps_of_bind collected
      exact joinParts_rootsAmong (collectAll_rootsAmong children given) joined
    · obtain ⟨parts, given, rest⟩ := Compile.steps_of_bind collected
      obtain ⟨⟨text, refs⟩, whole, made⟩ := Compile.steps_of_bind rest
      cases made
      exact assemble_rootsAmong (collectAll_rootsAmong children given) whole
    · rename_i ordinary _ _
      rw [plain ordinary]
      exact collectAll_rootsAmong children collected

theorem collectAll_rootsAmong (ts) (collected : collectAll src declared ts = .ok found) :
    RootsAmong (mentionedAll ts) found := by
  match ts with
  | [] =>
    cases collected
    exact nofun
  | t :: ts =>
    rw [collectAll] at collected
    obtain ⟨first, here, rest⟩ := Compile.steps_of_bind collected
    obtain ⟨others, later, made⟩ := Compile.steps_of_bind rest
    cases made
    exact .append (collect_rootsAmong t here) (collectAll_rootsAmong ts later)
end

def AgreeOn (names declared other : List String) : Prop :=
  ∀ name ∈ names, declared.contains name = other.contains name

lemma substitute_congr (agree : AgreeOn (refs.map (·.root)) declared other) :
    substitute declared refs offset text = substitute other refs offset text := by
  induction refs generalizing offset text with
  | nil => rfl
  | cons r refs ih =>
    obtain ⟨here, rest⟩ := forall_mem_cons.1 agree
    rw [substitute, substitute, here, ih rest, ih rest]

lemma bind_congr {query : String} (agree : AgreeOn (refs.map (·.root)) declared other) :
    bind query refs declared = bind query refs other := by
  have kept : (distinct refs).filter (fun r => declared.contains r.root) =
      (distinct refs).filter (fun r => other.contains r.root) := by
    refine List.filter_congr fun r mem => agree r.root ?_
    have root := mem_roots_distinct.1 (mem_map_of_mem mem)
    exact root.resolve_left nofun
  rw [bind, bind, substitute_congr agree, bound, bound, kept]

lemma assemble_congr (among : RootsAmong names found) (agree : AgreeOn names declared other) :
    assemble src declared t found = assemble src other t found := by
  rw [assemble_eq, assemble_eq]
  rcases mapped : found.mapM (relative (origin t)) with reason | refs
  · rfl
  · obtain ⟨rs, rfl, rfl⟩ := mapM_relative mapped
    refine congrArg Except.ok (bind_congr fun name mem => agree name ?_)
    rw [List.map_map] at mem
    obtain ⟨r, inside, rfl⟩ := mem_map.1 mem
    exact among r (mem_map_of_mem inside)

mutual
theorem collect_congr (t) (agree : AgreeOn (mentioned t) declared other) :
    collect src declared t = collect src other t := by
  match t with
  | .leaf _ => rfl
  | .node kind children =>
    have inside (ordinary : kind ≠ .regularId) : collectAll src declared children =
        collectAll src other children := by
      rw [mentioned, if_neg ordinary] at agree
      exact collectAll_congr children agree
    unfold collect
    split
    · rfl
    · rw [inside nofun]
    · rw [inside nofun]
      rcases given : collectAll src other children with reason | found
      · rfl
      · have among := collectAll_rootsAmong children given
        dsimp only [Bind.bind, Except.bind]
        rw [assemble_congr among agree]
    · rename_i ordinary _ _
      exact inside ordinary

theorem collectAll_congr (ts) (agree : AgreeOn (mentionedAll ts) declared other) :
    collectAll src declared ts = collectAll src other ts := by
  match ts with
  | [] => rfl
  | t :: ts =>
    obtain ⟨here, rest⟩ := forall_mem_append.1 agree
    rw [collectAll, collectAll, collect_congr t here, collectAll_congr ts rest]
end

lemma query_congr (agree : AgreeOn (mentionedAll t.children) declared other) :
    query src declared t = query src other t := by
  unfold query
  rw [collectAll_congr t.children agree]
  rcases given : collectAll src other t.children with reason | found
  · rfl
  · exact assemble_congr (collectAll_rootsAmong t.children given) agree

end Embedded

namespace Scope

/-- Two scopes that differ in extra names only, which the second one declares and which are no
members of a package. -/
structure Alike (extra : List String) (a b : Scope) : Prop where
  package : b.package = a.package
  members : ∃ names, a.ownMembers = some names ∧ b.ownMembers = some names ∧
    ∀ name ∈ extra, name ∉ names
  declared : ∀ name, name ∈ b.declared ↔ name ∈ a.declared ∨ name ∈ extra

variable (alike : Alike extra a b)
include alike

lemma Alike.declareAll (names) : Alike extra (a.declareAll names) (b.declareAll names) := by
  refine ⟨alike.package, alike.members, fun name => ?_⟩
  simp only [Scope.declareAll, mem_addAllNew, alike.declared]
  exact or_right_comm

lemma Alike.requireAll (packages others : List String) :
    Alike extra (a.requireAll packages) (b.requireAll others) :=
  ⟨alike.package, alike.members, alike.declared⟩

lemma Alike.cursor (params : List String) : Alike extra (a.cursor params) (b.cursor params) := by
  refine ⟨rfl, ⟨[], rfl, rfl, fun _ _ => not_mem_nil⟩, fun name => ?_⟩
  simp only [Scope.cursor, mem_append, alike.declared]
  exact or_right_comm

lemma Alike.routine : b.routine = a.routine := by
  obtain ⟨names, first, second, -⟩ := alike.members
  simp [Scope.routine, Scope.members, alike.package, first, second]

lemma Alike.resolve (named : ∀ name ∈ extra, name ∉ standard) (name) :
    b.resolve name = a.resolve name := by
  obtain ⟨names, first, second, apart⟩ := alike.members
  have declared : b.declared.contains name = (a.declared.contains name || extra.contains name) := by
    simp [alike.declared]
  have sameMembers : b.members = a.members := by
    simp [Scope.members, first, second]
  simp only [Scope.resolve, declared, alike.package, sameMembers]
  by_cases isExtra : name ∈ extra
  · have noMember : a.members.contains name = false := by
      simpa [Scope.members, first] using apart name isExtra
    have noStandard : standard.contains name = false := by grind
    simp only [noMember, noStandard, Bool.false_eq_true, if_false, ite_self]
  · simp [isExtra]

lemma Alike.agreeOn (apart : ∀ name ∈ extra, name ∉ names) :
    Embedded.AgreeOn names a.declared b.declared := by
  intro name mem
  have other : name ∉ extra := fun isExtra => apart name isExtra mem
  simp [alike.declared, other]

end Scope

namespace Compile

open Scope (Alike)

inductive SameOutcome (extra : List String) :
    Except Reject (α × Scope) → Except Reject (α × Scope) → Prop where
  | ok {a b : Scope} {value : α} (alike : Alike extra a b) :
      SameOutcome extra (.ok (value, a)) (.ok (value, b))
  | error {reason : Reject} : SameOutcome extra (.error reason) (.error reason)

/-- A computation comes out the same whether or not the extra names are declared. -/
def Blind (extra : List String) (x : Compile α) : Prop :=
  ∀ a b, Alike extra a b → SameOutcome extra (x a) (x b)

mutual
def queried : Tree Token → List String
  | .leaf _ => []
  | .node kind children =>
    if kind ∈ queries then Embedded.mentionedAll children
    else if kind ∈ routines then []
    else queriedAll children

def queriedAll : List (Tree Token) → List String
  | [] => []
  | t :: ts => queried t ++ queriedAll ts
end

lemma mem_queriedAll (mem : t ∈ ts) (mentions : name ∈ queried t) : name ∈ queriedAll ts := by
  induction ts with
  | nil => cases mem
  | cons u ts ih =>
    rw [queriedAll, mem_append]
    rcases mem_cons.1 mem with rfl | later
    · exact .inl mentions
    · exact .inr (ih later)

/-- A tree that is no unit of a script, and whose queries do not mention the extra names. -/
def Apart (extra : List String) (t : Tree Token) : Prop :=
  lacks units t = true ∧ ∀ name ∈ extra, name ∉ queried t

lemma Apart.inside (apart : Apart extra (.node kind ts)) (noQuery : kind ∉ queries)
    (noRoutine : kind ∉ enclosed) : ∀ t ∈ ts, Apart extra t := by
  intro t mem
  obtain ⟨lack, unmentioned⟩ := apart
  rw [queried, if_neg noQuery, if_neg fun is => noRoutine (mem_append_left _ is)] at unmentioned
  exact ⟨lacks_inside lack t mem,
    fun name isExtra mentions => unmentioned name isExtra (mem_queriedAll mem mentions)⟩

lemma Apart.no_unit (apart : Apart extra (.node kind ts)) : kind ∉ units := (lacks_node.1 apart.1).1

lemma accords_apart (named : ∀ name ∈ extra, name ∉ Scope.standard) :
    Accords src src id (fun _ : Unit => Alike extra) Eq (fun t _ => Apart extra t)
      fun _ _ => True where
  requires packages alike := alike.requireAll packages packages
  imports root alike := Scope.importing_of_requireAll alike.requireAll root
  merges alike _ := alike.requireAll _ _
  declares _ _ _ _ _ names alike := alike.declareAll names
  asks _ _ alike := (alike.resolve named _).symm
  query apart isQuery alike := by
    have unmentioned := apart.2
    rw [queried, if_pos isQuery] at unmentioned
    rw [Tree.mapAll_id]
    exact Embedded.query_congr (alike.agreeOn unmentioned)
  cursor names _ alike := ⟨(), alike.cursor names⟩
  routine names _ _ alike := by rw [alike.routine]
  standalone apart isUnit := absurd isUnit apart.no_unit
  specification apart := absurd (by decide) apart.no_unit
  body _ apart := absurd (by decide) apart.no_unit
  script apart := absurd (by decide) apart.no_unit
  inside apart noRoutine opens :=
    throughout_of_forall (apart.inside (not_query_of_opening opens) noRoutine) _
  enclosed _ _ _ := throughout_of_forall (fun _ _ => trivial) _
  parameters apart := throughoutParameters_of_forall (fun _ mem =>
    (apart.inside (by decide) (by decide) _ mem).inside (by decide) (by decide)) _

/-- Trees compile alike whether or not the extra names are declared, if their queries do not mention
them. -/
lemma blind_compileAll (named : ∀ name ∈ extra, name ∉ Scope.standard)
    (ts) (inner : lacksAll units ts = true)
    (apart : ∀ name ∈ extra, name ∉ queriedAll ts) : Blind extra (compileAll src ts) := by
  have each : ∀ t ∈ ts, Apart extra t := by
    intro t mem
    exact ⟨lacksAll_iff.1 inner t mem,
      fun name isExtra mentions => apart name isExtra (mem_queriedAll mem mentions)⟩
  intro a b alike
  have here : Matching (Alike extra) Eq (compileAll src ts a) (compileAll src ts b) :=
    matching_self (i := ()) accords_refl (accords_apart named) (throughout_of_forall each b) alike
  generalize compileAll src ts a = left at here ⊢
  generalize compileAll src ts b = right at here ⊢
  cases here with
  | ok value after => exact .ok after
  | error same =>
    cases same
    exact .error

end Compile
end BlockScript
