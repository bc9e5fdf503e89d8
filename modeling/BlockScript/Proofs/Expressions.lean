import BlockScript.Proofs.Placeholders
import BlockScript.Proofs.Scopes

/-!
References in expressions. The expressions of a query refer to variables by dotted names, at any
depth.
-/

namespace BlockScript.Embedded
open Tree

open Compile (lacks lacksAll)

def wordReference? (t : Tree Token) : Option Reference :=
  match t.firstToken?, t.lastToken? with
  | some first, some last => some { root := t.capitals, start := first.start, stop := last.stop }
  | _, _ => none

def joined : List Reference → List Reference
  | [] => []
  | [r] => [r]
  | [record, field] => [Reference.join record field]
  | _ => []

mutual
def gathered : Tree Token → List Reference
  | .leaf _ => []
  | .node kind children =>
    if kind = .regularId then (wordReference? (.node kind children)).toList
    else if kind = .generalElement then joined (gatheredAll children)
    else gatheredAll children

def gatheredAll : List (Tree Token) → List Reference
  | [] => []
  | t :: ts => gathered t ++ gatheredAll ts
end

def elementPieces (ts : List (Tree Token)) : List (Tree Token) :=
  ts.flatMap fun t => if t.kind? = some .generalElementPart then t.children else [t]

def elementPath (ts : List (Tree Token)) : List (Tree Token) :=
  ((elementPieces ts).takeWhile (·.kind? != some .functionArgument)).filter
    (·.kind? == some .idExpression)

def pathReference? (path : List (Tree Token)) : Option Reference :=
  match path.head?, path.head?.bind firstToken?, path.getLast?.bind lastToken? with
  | some root, some first, some last =>
    some
      { root := root.capitals
        attrs := path.tail.map capitals
        start := first.start
        stop := last.stop }
  | _, _, _ => none

mutual
/-- The references in the expressions of a tree: each general element is one, and so are those in
its arguments. -/
def expressed : Tree Token → List Reference
  | .leaf _ => []
  | .node kind children =>
    if kind = .generalElement then
      (pathReference? (elementPath children)).toList ++ expressedAll children
    else expressedAll children

def expressedAll : List (Tree Token) → List Reference
  | [] => []
  | t :: ts => expressed t ++ expressedAll ts
end

abbrev identifierOf (token : Token) : Tree Token :=
  .node .idExpression [.node .regularId [.leaf token]]

def Undeclared (declared : List String) (references : List Reference) : Prop :=
  ∀ r ∈ references, r.root ∉ declared

/-- A general element that is a variable or a field of one. -/
inductive IsPlainElement (declared : List String) : List (Tree Token) → Prop where
  | whole (arguments : rest = [] ∨ ∃ us, rest = [.node .functionArgument us])
      (nameless : gatheredAll rest = []) (foreign : Undeclared declared (expressedAll rest)) :
      IsPlainElement declared [.node .generalElementPart (identifierOf a :: rest)]
  | field (dot : IsLeaf .PERIOD d)
      (arguments : rest = [] ∨ ∃ us, rest = [.node .functionArgument us])
      (nameless : gatheredAll rest = []) (foreign : Undeclared declared (expressedAll rest)) :
      IsPlainElement declared
        [.node .generalElementPart (identifierOf a :: d :: identifierOf b :: rest)]

mutual
def Fair (declared : List String) : Tree Token → Prop
  | .leaf _ => True
  | .node kind children =>
    if kind = .regularId then (node kind children).capitals ∉ declared
    else if kind = .generalElement then
      IsPlainElement declared children ∨
        Undeclared declared (gatheredAll children ++ expressed (.node kind children))
    else FairAll declared children

def FairAll (declared : List String) : List (Tree Token) → Prop
  | [] => True
  | t :: ts => Fair declared t ∧ FairAll declared ts
end

@[simp]
lemma gathered_leaf (token) : gathered (.leaf token) = [] := rfl

@[simp]
lemma gatheredAll_nil : gatheredAll [] = [] := rfl

@[simp]
lemma gatheredAll_cons (t ts) : gatheredAll (t :: ts) = gathered t ++ gatheredAll ts := rfl

@[simp]
lemma expressed_leaf (token) : expressed (.leaf token) = [] := rfl

@[simp]
lemma expressedAll_nil : expressedAll [] = [] := rfl

@[simp]
lemma expressedAll_cons (t ts) : expressedAll (t :: ts) = expressed t ++ expressedAll ts := rfl

lemma gathered_word (ts) :
    gathered (.node .regularId ts) = (wordReference? (.node .regularId ts)).toList := by
  rw [gathered, if_pos rfl]

lemma gathered_element (ts) : gathered (.node .generalElement ts) = joined (gatheredAll ts) := by
  rw [gathered, if_neg (by decide), if_pos rfl]

lemma gathered_plain (name : kind ≠ .regularId) (element : kind ≠ .generalElement) :
    gathered (.node kind ts) = gatheredAll ts := by
  rw [gathered, if_neg name, if_neg element]

lemma expressed_plain (element : kind ≠ .generalElement) :
    expressed (.node kind ts) = expressedAll ts := by
  rw [expressed, if_neg element]

attribute [local simp] firstToken? lastToken? leaves leavesAll capitals text referenceTo

lemma wordReference?_token (token) :
    wordReference? (.node .regularId [.leaf token]) = some (referenceTo token) := by
  simp [wordReference?]

lemma joinParts_references (rs) :
    joinParts (rs.map .reference) = .ok ((joined rs).map .reference) := by
  match rs with
  | [] => rfl
  | [_] => rfl
  | [_, _] => rfl
  | _ :: _ :: _ :: _ => simp [joinParts, joined]

mutual
theorem collect_gathered (t) (names : HasNames t) (flat : lacks [.selectStatement] t = true) :
    collect src declared t = .ok ((gathered t).map .reference) := by
  match t with
  | .leaf _ => rfl
  | .node kind ts =>
    obtain ⟨noSelection, inner⟩ := Compile.lacks_node.1 flat
    by_cases name : kind = .regularId
    · subst name
      cases names with
      | name is => rfl
      | node other _ => exact absurd rfl other
    have all := names.inside name
    have parts : collectAll src declared ts =
        .ok ((gatheredAll ts).map .reference) := collectAll_gathered ts all inner
    by_cases element : kind = .generalElement
    · subst element
      rw [collect, parts, gathered_element]
      exact joinParts_references _
    · have selection : kind ≠ .selectStatement := by
        rintro rfl
        exact noSelection mem_cons_self
      rw [collect_plain name element selection, gathered_plain name element]
      exact parts

theorem collectAll_gathered (ts) (names : ∀ t ∈ ts, HasNames t)
    (flat : lacksAll [.selectStatement] ts = true) :
    collectAll src declared ts = .ok ((gatheredAll ts).map .reference) := by
  match ts with
  | [] => rfl
  | t :: ts =>
    obtain ⟨here, rest⟩ := Compile.lacksAll_cons.1 flat
    obtain ⟨first, others⟩ := forall_mem_cons.1 names
    rw [collectAll, collect_gathered t first here, collectAll_gathered ts others rest, gatheredAll,
      map_append]
    rfl
end

lemma declaredAmong_append (rs qs) :
    declaredAmong declared (rs ++ qs) = declaredAmong declared rs ++ declaredAmong declared qs :=
  filter_append _ _

lemma declaredAmong_undeclared (undeclared : Undeclared declared rs) :
    declaredAmong declared rs = [] := by
  refine filter_eq_nil_iff.2 fun r mem => ?_
  simpa using undeclared r mem

lemma mem_joined (mem : r ∈ joined rs) : ∃ q ∈ rs, r.root = q.root := by
  unfold joined at mem
  split at mem
  · cases mem
  · exact ⟨r, mem, rfl⟩
  · rw [mem_singleton.1 mem]
    exact ⟨_, mem_cons_self, rfl⟩
  · cases mem

lemma elementPath_whole (args : rest = [] ∨ ∃ us, rest = [.node .functionArgument us]) (a) :
    elementPath [.node .generalElementPart (identifierOf a :: rest)] = [identifierOf a] := by
  rcases args with rfl | ⟨us, rfl⟩ <;> rfl

lemma elementPath_field (dot : IsLeaf .PERIOD d)
    (args : rest = [] ∨ ∃ us, rest = [.node .functionArgument us]) (a b) :
    elementPath [.node .generalElementPart (identifierOf a :: d :: identifierOf b :: rest)] =
      [identifierOf a, identifierOf b] := by
  obtain ⟨token, -⟩ := dot
  rcases args with rfl | ⟨us, rfl⟩ <;> rfl

lemma pathReference?_whole (a) : pathReference? [identifierOf a] = some (referenceTo a) := by
  simp [pathReference?]

lemma pathReference?_field (a b) : pathReference? [identifierOf a, identifierOf b] =
      some (Reference.join (referenceTo a) (referenceTo b)) := by
  simp [pathReference?, Reference.join]

lemma IsPlainElement.found (plain : IsPlainElement declared ts) :
    declaredAmong declared (joined (gatheredAll ts)) =
      declaredAmong declared (expressed (.node .generalElement ts)) := by
  cases plain with
  | @whole rest a args nameless foreign =>
    have own : gatheredAll [.node .generalElementPart (identifierOf a :: rest)] =
        [referenceTo a] := by
      simp [gathered_plain, gathered_word, wordReference?_token, nameless]
    have inner : expressedAll [.node .generalElementPart (identifierOf a :: rest)] =
        expressedAll rest := by
      simp [expressed_plain]
    rw [own, expressed, if_pos rfl, elementPath_whole args, pathReference?_whole, inner,
      declaredAmong_append, declaredAmong_undeclared foreign, append_nil]
    rfl
  | @field d rest a b dot args nameless foreign =>
    obtain ⟨token, is⟩ := dot
    have own : gatheredAll [.node .generalElementPart
        (identifierOf a :: .leaf token :: identifierOf b :: rest)] =
          [referenceTo a, referenceTo b] := by
      simp [gathered_plain, gathered_word, wordReference?_token, nameless]
    have inner : expressedAll [.node .generalElementPart
        (identifierOf a :: .leaf token :: identifierOf b :: rest)] = expressedAll rest := by
      simp [expressed_plain]
    rw [own, expressed, if_pos rfl, elementPath_field ⟨token, is⟩ args, pathReference?_field,
      inner, declaredAmong_append, declaredAmong_undeclared foreign, append_nil]
    rfl

mutual
/-- In a fair tree the declared references that are found are those in its expressions. -/
theorem Fair.found (t) (names : HasNames t) (fair : Fair declared t) :
    declaredAmong declared (gathered t) = declaredAmong declared (expressed t) := by
  match t with
  | .leaf _ => rfl
  | .node kind ts =>
    by_cases name : kind = .regularId
    · subst name
      rw [Fair, if_pos rfl] at fair
      cases names with
      | @name token is =>
        refine declaredAmong_undeclared fun r mem => ?_
        rw [mem_singleton.1 mem]
        simpa using fair
      | node other _ => exact absurd rfl other
    have all := names.inside name
    by_cases element : kind = .generalElement
    · subst element
      rcases fair with plain | foreign
      · exact plain.found
      · obtain ⟨unfound, unexpressed⟩ := forall_mem_append.1 foreign
        rw [declaredAmong_undeclared unexpressed]
        refine declaredAmong_undeclared fun r mem => ?_
        obtain ⟨q, inside, same⟩ := mem_joined mem
        rw [same]
        exact unfound q inside
    · rw [Fair, if_neg name, if_neg element] at fair
      rw [gathered_plain name element, expressed_plain element]
      exact FairAll.found ts all fair

theorem FairAll.found (ts) (names : ∀ t ∈ ts, HasNames t) (fair : FairAll declared ts) :
    declaredAmong declared (gatheredAll ts) = declaredAmong declared (expressedAll ts) := by
  match ts with
  | [] => rfl
  | t :: ts =>
    obtain ⟨here, others⟩ := forall_mem_cons.1 names
    rw [gatheredAll_cons, expressedAll_cons, declaredAmong_append, declaredAmong_append,
      Fair.found t here fair.1, FairAll.found ts others fair.2]
end

end BlockScript.Embedded
