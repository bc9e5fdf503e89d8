import BlockScript.Proofs.RoutinePieces

/-!
References by dotted names with arguments. In an expression a reference keeps two parts, and of the
second one only its name; an assignment keeps one argument; and a call on its own keeps two
identifiers.
-/

namespace BlockScript
open Tree Draft

/-- The identifiers and arguments in a reference, from left to right. -/
def Draft.pieces : Draft → List Draft
  | .text id => [.text id]
  | .name d => d.pieces
  | .attribute value attr => value.pieces ++ attr.pieces
  | .subscript value index => value.pieces ++ [index]
  | .call func args => func.pieces ++ args
  | _ => []

namespace Compile

/-- An identifier, regular or in quotes. -/
inductive IsId : Tree Token → Prop where
  | regular : IsId (.node .idExpression [.node .regularId letters])
  | quoted : IsId (.node .idExpression [.leaf word])

def isRegular : Tree Token → Bool
  | .node .idExpression [.node .regularId _] => true
  | _ => false

lemma IsId.compiled (is : IsId t) :
    compile src t s = .ok (if isRegular t then [.ident t.capitals] else [], s) := by
  cases is with
  | @regular letters =>
    have word : compile src (.node .regularId letters) s =
        .ok ([.ident (node .regularId letters).capitals], s) := by
      rfl
    rw [capitals_single]
    exact compile_of_parts (compileAll_single word) rfl
  | quoted => exact compile_of_parts compileAll_leaf rfl

lemma ids_compiled (are : ∀ t ∈ ids, IsId t) :
    compileAll src ids s = .ok ((ids.filter isRegular).map (.ident ·.capitals), s) := by
  induction ids with
  | nil => exact compileAll_nil
  | cons t ids ih =>
    obtain ⟨is, are⟩ := forall_mem_cons.1 are
    rw [compileAll_cons is.compiled (ih are), List.filter_cons]
    cases isRegular t <;> rfl

attribute [local simp] pieces

lemma resolve_pieces (s : Scope) (name) :
    ∃ front, (s.resolve name).pieces = front ++ [.text name] := by
  have member (owner) : (member owner name).pieces = owner.pieces ++ [.text name] := by
    simp [member]
  have plain : (ident name).pieces = [] ++ [.text name] := by simp [ident]
  unfold Scope.resolve
  split
  · exact ⟨_, plain⟩
  · split
    · exact ⟨_, member _⟩
    · split
      · exact ⟨_, member _⟩
      · exact ⟨_, plain⟩

lemma path_pieces (path : List String) (d : Draft) :
    (path.foldl member d).pieces = d.pieces ++ path.map .text := by
  induction path generalizing d with
  | nil => exact (append_nil _).symm
  | cons name path ih =>
    rw [List.foldl_cons, ih, map_cons, List.append_cons]
    rfl

lemma part_inv (compiled : compile src (.node .generalElementPart ts) s = .ok (ds, s')) :
    ∃ inside root path, compileAll src ts s = .ok (inside, s') ∧
      namesOf ts .idExpression = root :: path ∧
      ds = [.call (path.foldl .member (s'.resolve root))
        (if hasPhrase ts .functionArgument then inside.drop (root :: path).length else [])] := by
  obtain ⟨inside, s1, inner, whole⟩ := parts_of_compile compiled
  obtain ⟨d, rfl, made⟩ := one_inv whole
  have made : elementPart ts inside s1 = .ok (d, s') := made
  obtain ⟨rfl, callee, resolved, rfl⟩ := elementPart_made made
  cases names : namesOf ts .idExpression with
  | nil => cases names ▸ resolved
  | cons root path =>
    cases names ▸ resolved
    exact ⟨inside, root, path, inner, rfl, rfl⟩

section

variable (parts : phrases ts = ids ++ lists) (are : ∀ t ∈ ids, IsId t)
  (areLists : ∀ t ∈ lists, t.kind? = some .functionArgument)
include parts are areLists

lemma names_of_phrases : namesOf ts .idExpression = ids.map capitals ∧
    hasPhrase ts .functionArgument = !lists.isEmpty := by
  have own : ∀ t ∈ ids, t.kind? = some .idExpression := fun t mem => by cases are t mem <;> rfl
  constructor
  · rw [namesOf, ← filter_phrases, parts, filter_append, filter_eq_self.2 (by simpa using own),
      filter_eq_nil_iff.2 fun t mem => by simp [areLists t mem], append_nil]
  · have given : hasPhrase ts .functionArgument = hasPhrase (phrases ts) .functionArgument := by
      rw [hasPhrase, hasPhrase, phrases, List.any_filter]
      congr 1
      funext t
      cases t <;> simp [kind?]
    have none : ids.any (·.kind? == some .functionArgument) = false := by
      simpa using fun t mem => by simp [own t mem]
    rw [given, parts, hasPhrase, List.any_append, none]
    cases lists with
    | nil => rfl
    | cons t lists => simp [areLists t mem_cons_self]

/-- A part keeps its identifiers, and its arguments if it has none or no quoted identifier. -/
lemma part_kept (compiled : compile src (.node .generalElementPart ts) s = .ok (ds, s')) :
    ∃ args callee kept front, compileAll src lists s = .ok (args, s') ∧ ds = [.call callee kept] ∧
      callee.pieces = front ++ ids.map (.text ·.capitals) ∧
      (kept = args ↔ ids.all isRegular = true ∨ args = []) := by
  obtain ⟨inside, root, path, inner, named, rfl⟩ := part_inv compiled
  rw [compileAll_phrases, parts] at inner
  obtain ⟨words, args, s1, here, given, rfl⟩ := compileAll_append_inv inner
  cases (ids_compiled are).symm.trans here
  obtain ⟨names, called⟩ := names_of_phrases parts are areLists
  obtain ⟨front, begins⟩ := resolve_pieces s' root
  have texts : ids.map (Draft.text ·.capitals) = .text root :: path.map .text := by
    rw [← map_cons, ← named, names, List.map_map]
    rfl
  refine ⟨args, _, _, front, given, rfl, by simp [path_pieces, begins, texts], ?_⟩
  have few := List.length_filter_le isRegular ids
  have all : ids.all isRegular = true ↔ (ids.filter isRegular).length = ids.length := by simp_all
  rw [called, all, ← named, names, length_map]
  cases lists with
  | nil => simp_all
  | cons u lists =>
    rw [List.isEmpty_cons, Bool.not_false, if_pos rfl, List.drop_append, length_map,
      List.drop_eq_nil_of_le (by simpa using few), nil_append]
    refine ⟨fun same => ?_, ?_⟩
    · have long := congrArg List.length same
      rw [length_drop] at long
      rw [← length_eq_zero_iff]
      omega
    · grind

end

lemma parts_pieces (are : ∀ t ∈ ts, t.kind? = some .generalElementPart)
    (compiled : compileAll src ts s = .ok (ds, s')) : ∀ d ∈ ds, d.pieces ≠ [] := by
  induction ts generalizing s ds with
  | nil => simp_all
  | cons t ts ih =>
    obtain ⟨is, are⟩ := forall_mem_cons.1 are
    obtain ⟨own, later, s1, here, rest, rfl⟩ := compileAll_cons_inv compiled
    refine forall_mem_append.2 ⟨?_, ih are rest⟩
    cases t with
    | leaf => cases is
    | node =>
      cases is
      obtain ⟨_, root, path, -, -, rfl⟩ := part_inv here
      obtain ⟨front, begins⟩ := resolve_pieces s1 root
      simp [path_pieces, begins]

/-- Of the parts of a reference the first one is kept, and the name of the second one. -/
lemma element_kept (are : ∀ t ∈ phrases ts, t.kind? = some .generalElementPart)
    (compiled : compile src (.node .generalElement ts) s = .ok (ds, s')) :
    ∃ d parts s1, ds = [d] ∧ compileAll src (phrases ts) s = .ok (parts, s1) ∧
      (d.pieces = parts.flatMap Draft.pieces ↔
        ∃ value, parts = [value] ∨ ∃ func, parts = [value, .call func []]) := by
  obtain ⟨parts, s1, inner, whole⟩ := parts_of_compile compiled
  rw [compileAll_phrases] at inner
  have some := parts_pieces are inner
  obtain ⟨d, rfl, made⟩ := one_inv whole
  refine ⟨d, parts, s1, rfl, inner, ?_⟩
  obtain ⟨value, rest, rfl, -, ⟨rfl, rfl⟩ | ⟨func, args, others, name, rfl, named, rfl⟩⟩ :=
    element_inv made
  · simp
  · cases nameOf_inv named
    have pieces : (Draft.member value name).pieces = value.pieces ++ [.text name] := by
      simp [Draft.member]
    have second : (Draft.call (.ident name) args).pieces = .text name :: args := by
      simp [Draft.ident]
    rw [pieces, flatMap_cons, flatMap_cons, second, List.append_cancel_left_eq]
    cases others with
    | nil => simp
    | cons third others => simp_all

/-- A call on its own keeps two identifiers, if they are regular. -/
lemma routine_kept {first : Tree Token} (is : IsId first) (regular : isRegular first = true)
    (are : ∀ t ∈ ids, IsId t) (names : phrases ns = .node .identifier [first] :: ids)
    (parts : phrases ts = .node .routineName ns :: lists)
    (compiled : compile src (.node .functionCall ts) s = .ok (ds, s')) :
    ∃ callee args s1, ds = [.call callee args] ∧ compileAll src lists s1 = .ok (args, s') ∧
      (callee.pieces = ((ids.map capitals).foldl .member (s.resolve first.capitals)).pieces ↔
        (ids.filter isRegular).take 1 = ids) := by
  obtain ⟨inside, s1, inner, whole⟩ := parts_of_compile compiled
  rw [compileAll_phrases, parts] at inner
  obtain ⟨own, args, s2, here, given, rfl⟩ := compileAll_cons_inv inner
  obtain ⟨words, s3, spelled, assembled⟩ := parts_of_compile here
  have head : compile src (.node .identifier [first]) s = .ok ([.ident first.capitals], s) := by
    have word : compile src first s = _ := is.compiled
    rw [regular, if_pos rfl] at word
    exact compile_of_parts (compileAll_single word) rfl
  rw [compileAll_phrases, names, compileAll_cons head (ids_compiled are)] at spelled
  cases spelled
  obtain ⟨callee, rfl, made⟩ := one_inv assembled
  obtain ⟨part, rest, root, split, named, -, shape⟩ := routineName_inv made
  cases split
  cases named
  cases whole
  refine ⟨callee, args, s2, rfl, given, ?_⟩
  have pieces : callee.pieces = (s.resolve first.capitals).pieces ++
      ((ids.filter isRegular).take 1).map (.text ·.capitals) := by
    rcases shape with ⟨none, rfl⟩ | ⟨method, more, several, rfl⟩
    · rw [List.map_eq_nil_iff.1 none]
      exact (append_nil _).symm
    · obtain ⟨j, others, list, rfl, -⟩ := List.map_eq_cons_iff.1 several
      rw [list]
      simp [ident]
  have inside := (List.take_sublist 1 _).trans (List.filter_sublist (p := isRegular) (l := ids))
  rw [pieces, path_pieces, List.append_cancel_left_eq, List.map_map]
  exact ⟨fun same => inside.eq_of_length (by simpa using congrArg List.length same),
    fun same => by rw [same]; rfl⟩

/-- A part of a reference keeps its identifiers, and its arguments if it has none or no quoted
identifier. Of the parts an expression keeps the first one and the name of the second one, and an
assignment at most one argument of a single part. A call on its own calls what the path is in an
expression if and only if there are at most two identifiers, all regular. -/
theorem reference_kept_iff (source : String) (s : Scope) :
    (∀ ts ids lists ds s', phrases ts = ids ++ lists → (∀ t ∈ ids, IsId t) →
      (∀ t ∈ lists, t.kind? = some .functionArgument) →
      compile source (.node .generalElementPart ts) s = .ok (ds, s') →
      ∃ args callee kept front, compileAll source lists s = .ok (args, s') ∧
        ds = [.call callee kept] ∧ callee.pieces = front ++ ids.map (.text ·.capitals) ∧
        (kept = args ↔ ids.all isRegular = true ∨ args = [])) ∧
    (∀ ts ds s', (∀ t ∈ phrases ts, t.kind? = some .generalElementPart) →
      compile source (.node .generalElement ts) s = .ok (ds, s') →
      ∃ d parts s₁, ds = [d] ∧ compileAll source (phrases ts) s = .ok (parts, s₁) ∧
        (d.pieces = parts.flatMap Draft.pieces ↔
          ∃ value, parts = [value] ∨ ∃ func, parts = [value, .call func []])) ∧
    (∀ ts t value d s₁ ds s', phrases ts = [t, value] → compile source t s = .ok ([d], s₁) →
      compile source (.node .assignmentStatement ts) s = .ok (ds, s') →
      ∃ target v, ds = [.update target v] ∧
        (target.pieces = d.pieces ↔ ∀ func args, d = .call func args → args.length ≤ 1)) ∧
    ∀ ns ts first ids lists ds s', IsId first → isRegular first = true → (∀ t ∈ ids, IsId t) →
      phrases ns = .node .identifier [first] :: ids → phrases ts = .node .routineName ns :: lists →
      compile source (.node .functionCall ts) s = .ok (ds, s') →
      ∃ callee args s₁, ds = [.call callee args] ∧ compileAll source lists s₁ = .ok (args, s') ∧
        (callee.pieces =
            ((ids.map Tree.capitals).foldl .member (s.resolve first.capitals)).pieces ↔
          (ids.filter isRegular).take 1 = ids) := by
  refine ⟨fun ts ids lists ds s' parts are areLists => part_kept parts are areLists,
    fun ts ds s' are => element_kept are, fun ts t value d s₁ ds s' parts own compiled => ?_,
    fun ns ts first ids lists ds s' is regular are names parts =>
      routine_kept is regular are names parts⟩
  obtain ⟨inside, s₂, inner, whole⟩ := parts_of_compile compiled
  rw [compileAll_phrases, parts] at inner
  obtain ⟨first, later, s₃, here, -, rfl⟩ := compileAll_cons_inv inner
  cases own.symm.trans here
  obtain ⟨e, made, rfl⟩ := single_inv whole
  cases made
  refine ⟨_, _, rfl, ?_⟩
  split
  case _ func index args => simp
  case _ func => simp
  case _ other noIndex noCall =>
    refine iff_of_true rfl fun func args is => ?_
    cases args with
    | nil => exact absurd is (noCall func)
    | cons index args => exact absurd is (noIndex func index args)

open Core

def idTree (id : String) : Tree Token := .node .idExpression [nameTree id]

def oneArgument : Tree Token :=
  .node .functionArgument
    [climb [.argument, .expression, .logicalExpression, .multisetExpression] (numeralTree "1")]

/-- The path of `a.b.c(1)` is whole in an expression. -/
theorem path_kept_in_expression :
    ∃ callee front, compile "" (.node .generalElementPart (["a", "b", "c"].map idTree ++
        [oneArgument])) {} = .ok ([.call callee [(Arith.number 1).draft]], {}) ∧
      callee.pieces = front ++ ["A", "B", "C"].map .text := by
  have compiled : compile "" (.node .generalElementPart (["a", "b", "c"].map idTree ++
      [oneArgument])) {} =
        .ok ([.call (.member (.member (.ident "A") "B") "C") [(Arith.number 1).draft]], {}) := by
    with_unfolding_all rfl
  obtain ⟨args, callee, kept, front, given, same, pieces, iff⟩ :=
    (reference_kept_iff "" {}).1 _ (["a", "b", "c"].map idTree) [oneArgument] _ _ rfl
      (by simpa using ⟨.regular, .regular, .regular⟩) (by simp [oneArgument, Tree.kind?]) compiled
  cases same
  exact ⟨_, front, compiled, pieces.trans (by with_unfolding_all rfl)⟩

/-- As a call on its own it loses its third identifier. -/
theorem third_identifier_lost :
    compile "" (.node .functionCall [.node .routineName (.node .identifier [idTree "a"] ::
        ["b", "c"].map idTree), oneArgument]) {} =
      .ok ([.call (.attribute (.ident "A") (.ident "B")) [(Arith.number 1).draft]],
        ({} : Scope).require "A") := by
  with_unfolding_all rfl

end Compile
end BlockScript
