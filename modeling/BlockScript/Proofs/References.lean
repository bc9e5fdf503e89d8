import BlockScript.Proofs.Phrases

/-!
Where the references of a query stand. In a tree that was read from a text the references that are
collected stand one behind the other, with something between them, and each takes at least the room
that its name needs.
-/

namespace BlockScript

namespace Reference

def path (r : Reference) : List String := r.root :: r.attrs

def name (r : Reference) : String := ".".intercalate r.path

def moved (r : Reference) (shift : Int) : Reference :=
  { r with start := r.start - shift, stop := r.stop - shift }

lemma placeholder_eq (r : Reference) : r.placeholder = ":\"" ++ r.name ++ "\"" := rfl

end Reference

namespace Embedded

def IsWord (name : String) : Prop :=
  name ≠ "" ∧ ∀ c ∈ name.toList, Lexeme.isWordChar c = true

def IsName (token : Token) : Prop := IsWord token.text.toUpper

/-- The second of two tokens comes behind the first, and two names have something between them. -/
def Behind (a b : Token) : Prop :=
  a.stop < b.start ∧ (IsName a → IsName b → a.stop + 1 < b.start)

-- by the characters of the name: a search through all characters would decide it too
instance (name : String) : Decidable (IsWord name) :=
  decidable_of_iff (name ≠ "" ∧ name.toList.all Lexeme.isWordChar = true)
    (by rw [IsWord, all_eq_true])

instance (token : Token) : Decidable (IsName token) := inferInstanceAs (Decidable (IsWord _))

instance : DecidableRel Behind := fun _ _ => inferInstanceAs (Decidable (_ ∧ (_ → _ → _)))

inductive HasNames : Tree Token → Prop where
  | leaf : HasNames (.leaf token)
  | name (is : IsName token) : HasNames (.node .regularId [.leaf token])
  | node (other : kind ≠ .regularId) (all : ∀ t ∈ children, HasNames t) :
      HasNames (.node kind children)

mutual
def hasNames : Tree Token → Bool
  | .leaf _ => true
  | .node kind children =>
    if kind = .regularId then
      match children with
      | [.leaf token] => decide (IsName token)
      | _ => false
    else hasNamesAll children

def hasNamesAll : List (Tree Token) → Bool
  | [] => true
  | t :: ts => hasNames t && hasNamesAll ts
end

mutual
theorem HasNames.of_hasNames (t) (decided : hasNames t = true) : HasNames t := by
  match t with
  | .leaf _ => exact .leaf
  | .node kind ts =>
    unfold hasNames at decided
    by_cases name : kind = .regularId
    · rw [if_pos name] at decided
      subst name
      split at decided
      · exact .name (of_decide_eq_true decided)
      · cases decided
    · rw [if_neg name] at decided
      exact .node name (HasNames.of_hasNamesAll ts decided)

theorem HasNames.of_hasNamesAll (ts) (decided : hasNamesAll ts = true) : ∀ t ∈ ts, HasNames t := by
  match ts with
  | [] => nofun
  | t :: ts =>
    obtain ⟨here, rest⟩ := Bool.and_eq_true_iff.1 decided
    exact forall_mem_cons.2 ⟨HasNames.of_hasNames t here, HasNames.of_hasNamesAll ts rest⟩
end

lemma HasNames.inside (names : HasNames (.node kind ts)) (other : kind ≠ .regularId) :
    ∀ t ∈ ts, HasNames t := by
  cases names with
  | name => exact absurd rfl other
  | node _ all => exact all

structure IsPiece (source : String) (token : Token) : Prop where
  forward : token.start ≤ token.stop
  inside : token.stop < source.toList.length
  text : token.text.toList =
    (source.toList.drop token.start).take (token.stop + 1 - token.start)

instance (source : String) (token : Token) : Decidable (IsPiece source token) :=
  decidable_of_iff (token.start ≤ token.stop ∧ token.stop < source.toList.length ∧
      token.text.toList = (source.toList.drop token.start).take (token.stop + 1 - token.start))
    ⟨fun ⟨forward, inside, text⟩ => ⟨forward, inside, text⟩,
      fun piece => ⟨piece.forward, piece.inside, piece.text⟩⟩

structure IsRead (source : String) (ts : List (Tree Token)) : Prop where
  pieces : ∀ token ∈ Tree.leavesAll ts, IsPiece source token
  ordered : (Tree.leavesAll ts).Pairwise Behind
  names : ∀ t ∈ ts, HasNames t

/-- A reference runs from one name among some tokens to another, and has room for its own name. -/
structure StandsAmong (tokens : List Token) (r : Reference) : Prop where
  first : ∃ token ∈ tokens, IsName token ∧ r.start = token.start
  last : ∃ token ∈ tokens, IsName token ∧ r.stop = token.stop
  room : r.start + r.name.length ≤ r.stop + 1
  words : ∀ name ∈ r.path, IsWord name

/-- The second of two references comes behind the first, with something between them. -/
def Apart (a b : Reference) : Prop := a.stop + 1 < b.start

def declaredAmong (declared : List String) (references : List Reference) : List Reference :=
  references.filter fun r => declared.contains r.root

lemma StandsAmong.mono (stands : StandsAmong tokens r) (subset : tokens ⊆ more) :
    StandsAmong more r := by
  obtain ⟨⟨a, inA, first⟩, ⟨b, inB, last⟩, room, words⟩ := stands
  exact ⟨⟨a, subset inA, first⟩, ⟨b, subset inB, last⟩, room, words⟩

lemma declaredAmong_known (known : declared.contains r.root) :
    declaredAmong declared (r :: rs) = r :: declaredAmong declared rs :=
  List.filter_cons_of_pos known

lemma declaredAmong_unknown (unknown : ¬ declared.contains r.root) :
    declaredAmong declared (r :: rs) = declaredAmong declared rs :=
  List.filter_cons_of_neg unknown

lemma IsPiece.length (piece : IsPiece src token) :
    token.text.toList.length = token.stop + 1 - token.start := by
  have inside := piece.inside
  rw [piece.text, length_take, length_drop]
  omega

def referenceTo (token : Token) : Reference where
  root := token.text.toUpper
  start := token.start
  stop := token.stop

def Reference.join (record field : Reference) : Reference :=
  { record with attrs := record.attrs ++ [field.root], stop := field.stop }

/-- What can be said of references wherever they are found: of a word by itself, of two references
one behind the other, and of the one that they are joined to. -/
structure Placing (Behind : Token → Token → Prop) (Word : Token → Prop)
    (Stands : List Token → Reference → Prop) (Apart : Reference → Reference → Prop) : Prop where
  word : Word token → IsName token → Stands [token] (referenceTo token)
  mono : Stands tokens r → tokens ⊆ more → Stands more r
  gap : (∀ a ∈ tokens, ∀ b ∈ more, Behind a b) → Stands tokens r → Stands more q → Apart r q
  join : Stands tokens r → Stands tokens q → Apart r q → Stands tokens (Reference.join r q)

/-- Either a nested query is among what was found, or references that stand among some tokens. -/
def Orderly (Stands : List Token → Reference → Prop) (Apart : Reference → Reference → Prop)
    (tokens : List Token) (found : List Found) : Prop :=
  (∃ text, .query text ∈ found) ∨ ∃ rs : List Reference, found = rs.map .reference ∧
    (∀ r ∈ rs, Stands tokens r) ∧ rs.Pairwise Apart

lemma collect_plain (name : kind ≠ .regularId) (element : kind ≠ .generalElement)
    (selection : kind ≠ .selectStatement) :
    collect src declared (.node kind ts) = collectAll src declared ts := by
  rw [collect]
  · exact name
  · exact element
  · exact selection

section

variable {Behind : Token → Token → Prop} {Word : Token → Prop}
  {Stands : List Token → Reference → Prop} {Apart : Reference → Reference → Prop}

lemma orderly_nil : Orderly Stands Apart tokens [] := .inr ⟨[], rfl, nofun, .nil⟩

variable (placing : Placing Behind Word Stands Apart)
include placing

lemma Orderly.append (first : Orderly Stands Apart tokens found)
    (second : Orderly Stands Apart more others) (behind : ∀ a ∈ tokens, ∀ b ∈ more, Behind a b) :
    Orderly Stands Apart (tokens ++ more) (found ++ others) := by
  rcases first with ⟨text, nested⟩ | ⟨rs, rfl, stand, apart⟩
  · exact .inl ⟨text, mem_append_left _ nested⟩
  rcases second with ⟨text, nested⟩ | ⟨qs, rfl, later, apart'⟩
  · exact .inl ⟨text, mem_append_right _ nested⟩
  refine .inr ⟨rs ++ qs, by rw [map_append], forall_mem_append.2 ⟨fun r own => ?_, fun r own => ?_⟩,
    pairwise_append.2 ⟨apart, apart', fun r own q other => ?_⟩⟩
  · exact placing.mono (stand r own) (List.subset_append_left _ _)
  · exact placing.mono (later r own) (List.subset_append_right _ _)
  · exact placing.gap behind (stand r own) (later q other)

lemma joinParts_orderly (orderly : Orderly Stands Apart tokens found)
    (joined : joinParts found = .ok others) : Orderly Stands Apart tokens others := by
  unfold joinParts at joined
  split at joined
  · cases joined
    exact orderly
  · cases joined
    exact orderly
  case _ record field =>
    cases joined
    rcases orderly with ⟨text, nested⟩ | ⟨rs, same, stand, apart⟩
    · simp at nested
    · match rs, same with
      | [_, _], rfl =>
        have behind : Apart record field := (pairwise_cons.1 apart).1 field (by simp)
        refine .inr ⟨[Reference.join record field], rfl, ?_, List.pairwise_singleton _ _⟩
        intro r mem
        rw [mem_singleton.1 mem]
        exact placing.join (stand record (by simp)) (stand field (by simp)) behind
  · cases joined
  · cases joined
    exact orderly_nil

mutual
theorem collect_orderly (t) (names : HasNames t) (words : ∀ token ∈ t.leaves, Word token)
    (ordered : t.leaves.Pairwise Behind) (got : collect src declared t = .ok found) :
    Orderly Stands Apart t.leaves found := by
  match t with
  | .leaf token =>
    cases got
    exact orderly_nil
  | .node kind ts =>
    by_cases name : kind = .regularId
    · subst name
      cases names with
      | @name token is =>
        cases got
        refine .inr ⟨[referenceTo token], rfl, ?_, List.pairwise_singleton _ _⟩
        intro r mem
        rw [mem_singleton.1 mem]
        exact placing.word (words token (by simp [Tree.leaves, Tree.leavesAll])) is
      | node other _ => exact absurd rfl other
    have inner := names.inside name
    by_cases element : kind = .generalElement
    · subst element
      obtain ⟨own, here, joined⟩ := Compile.steps_of_bind got
      exact joinParts_orderly placing (collectAll_orderly ts inner words ordered here) joined
    by_cases selection : kind = .selectStatement
    · subst selection
      obtain ⟨own, here, rest⟩ := Compile.steps_of_bind got
      obtain ⟨⟨text, refs⟩, -, made⟩ := Compile.steps_of_bind rest
      cases made
      exact .inl ⟨text, mem_cons_self⟩
    rw [collect_plain name element selection] at got
    exact collectAll_orderly ts inner words ordered got

theorem collectAll_orderly (ts) (names : ∀ t ∈ ts, HasNames t)
    (words : ∀ token ∈ Tree.leavesAll ts, Word token) (ordered : (Tree.leavesAll ts).Pairwise Behind)
    (got : collectAll src declared ts = .ok found) :
    Orderly Stands Apart (Tree.leavesAll ts) found := by
  match ts with
  | [] =>
    cases got
    exact orderly_nil
  | t :: ts =>
    obtain ⟨own, here, rest⟩ := Compile.steps_of_bind got
    obtain ⟨others, later, made⟩ := Compile.steps_of_bind rest
    cases made
    obtain ⟨named, names⟩ := forall_mem_cons.1 names
    obtain ⟨early, late⟩ := forall_mem_append.1 words
    obtain ⟨first, second, between⟩ := pairwise_append.1 ordered
    exact .append placing (collect_orderly t named early first here)
      (collectAll_orderly ts names late second later) between
end

lemma references_stand {rs : List Reference} (names : ∀ t ∈ ts, HasNames t)
    (words : ∀ token ∈ Tree.leavesAll ts, Word token) (ordered : (Tree.leavesAll ts).Pairwise Behind)
    (got : collectAll src declared ts = .ok (rs.map .reference)) :
    (∀ r ∈ rs, Stands (Tree.leavesAll ts) r) ∧ rs.Pairwise Apart := by
  rcases collectAll_orderly placing ts names words ordered got with
    ⟨text, nested⟩ | ⟨qs, same, stand⟩
  · simp at nested
  · obtain rfl : rs = qs := (List.map_inj_right fun _ _ => Found.reference.inj).1 same
    exact stand

end

lemma standsAmong_name (piece : IsPiece src token) (name : IsName token) :
    StandsAmong [token] (referenceTo token) := by
  have length := piece.length
  have forward := piece.forward
  refine ⟨⟨token, mem_cons_self, name, rfl⟩, ⟨token, mem_cons_self, name, rfl⟩, ?_, ?_⟩
  · have same : (referenceTo token).name.length = token.text.toList.length := by
      simp [Reference.name, Reference.path, referenceTo, String.toUpper, String.length_toList]
    rw [same, length]
    change (token.start : Int) + (token.stop + 1 - token.start : Nat) ≤ (token.stop : Int) + 1
    omega
  · intro word mem
    rw [mem_singleton.1 mem]
    exact name

lemma intercalate_concat (first rest last) : ".".intercalate (first :: (rest ++ [last])) =
      ".".intercalate (first :: rest) ++ "." ++ last := by
  induction rest generalizing first with
  | nil => simp
  | cons next rest ih =>
    rw [cons_append, String.intercalate_cons_cons, String.intercalate_cons_cons, ih,
      ← String.append_assoc, ← String.append_assoc]

lemma name_join (record field) :
    (Reference.join record field).name = record.name ++ "." ++ field.root :=
  intercalate_concat _ _ _

lemma length_root_le (r : Reference) : r.root.length ≤ r.name.length := by
  unfold Reference.name Reference.path
  cases r.attrs with
  | nil => simp
  | cons attr attrs => simp; omega

lemma StandsAmong.join (first : StandsAmong tokens record) (second : StandsAmong tokens field)
    (apart : Apart record field) :
    StandsAmong tokens (Reference.join record field) := by
  refine ⟨first.first, second.last, ?_, ?_⟩
  · have early := first.room
    have late := second.room
    have shorter := length_root_le field
    unfold Apart at apart
    rw [name_join, String.length_append, String.length_append]
    change record.start + ((record.name.length + 1 + field.root.length : Nat) : Int) ≤ field.stop + 1
    omega
  · intro word mem
    have either : word ∈ record.path ++ [field.root] := mem
    rcases mem_append.1 either with own | other
    · exact first.words word own
    · rw [mem_singleton.1 other]
      exact second.words field.root mem_cons_self

lemma placing_names : Placing Behind (IsPiece src) StandsAmong Apart where
  word is name := standsAmong_name is name
  mono := .mono
  gap behind first second := by
    obtain ⟨b, inB, nameB, stop⟩ := first.last
    obtain ⟨a, inA, nameA, start⟩ := second.first
    have gap := (behind b inB a inA).2 nameB nameA
    unfold Apart
    omega
  join := .join

lemma IsRead.children (read : IsRead src [.node kind ts]) (other : kind ≠ .regularId) :
    IsRead src ts := by
  have leaves : Tree.leavesAll [.node kind ts] = Tree.leavesAll ts := by
    simp [Tree.leavesAll, Tree.leaves]
  exact ⟨leaves ▸ read.pieces, leaves ▸ read.ordered, (read.names _ mem_cons_self).inside other⟩

end Embedded
end BlockScript
