import BlockScript.Proofs.References

/-!
Placeholders in a query text. Putting placeholders for references that stand apart leaves every
placeholder whole, so that they can be read off the text again.
-/

namespace BlockScript.Embedded

def placeholdersFrom : Option (List Char) → List Char → List String
  | _, [] => []
  | none, ':' :: '"' :: rest => placeholdersFrom (some []) rest
  | none, _ :: rest => placeholdersFrom none rest
  | some name, c :: rest =>
    if c = '"' then String.ofList name.reverse :: placeholdersFrom none rest
    else placeholdersFrom (some (c :: name)) rest

def placeholders (text : String) : List String := placeholdersFrom none text.toList

example : placeholders "insert into t values (:\"RC.ID\", 5, :\"X\")" = ["RC.ID", "X"] := by
  decide +kernel

def IsPlainText (text : List Char) : Prop := ¬ [':', '"'] <:+: text

def weave (first : List Char) : List (String × List Char) → List Char
  | [] => first
  | (name, piece) :: rest => first ++ ((":\"" ++ name ++ "\"").toList ++ weave piece rest)

lemma IsPlainText.part (plain : IsPlainText text) (part : chunk <:+: text) : IsPlainText chunk :=
  fun inside => plain (inside.trans part)

lemma scan_name (quoteless : '"' ∉ chunk) (before : List Char) :
    placeholdersFrom (some before) (chunk ++ '"' :: rest) =
      String.ofList (before.reverse ++ chunk) :: placeholdersFrom none rest := by
  induction chunk generalizing before with
  | nil => simp [placeholdersFrom]
  | cons c chunk ih =>
    have other : c ≠ '"' := fun is => quoteless (is ▸ mem_cons_self)
    rw [cons_append, placeholdersFrom, if_neg other,
      ih (fun mem => quoteless (mem_cons_of_mem _ mem))]
    simp

lemma scan_placeholder (quoteless : '"' ∉ name.toList) :
    placeholdersFrom none ((":\"" ++ name ++ "\"").toList ++ rest) =
      name :: placeholdersFrom none rest := by
  have spelled : (":\"" ++ name ++ "\"").toList ++ rest =
      ':' :: '"' :: (name.toList ++ '"' :: rest) := by
    simp
  rw [spelled, placeholdersFrom, scan_name quoteless]
  simp

lemma scan_plain (plain : IsPlainText chunk) (next : rest.head? ≠ some '"') :
    placeholdersFrom none (chunk ++ rest) = placeholdersFrom none rest := by
  induction chunk with
  | nil => rfl
  | cons c chunk ih =>
    have later : IsPlainText chunk := plain.part (List.suffix_cons c chunk).isInfix
    rw [cons_append, placeholdersFrom, ih later]
    -- a placeholder that begins here would begin in the chunk, or at its end
    rintro tail rfl follows
    cases chunk with
    | nil => exact next (by rw [← nil_append rest, follows, List.head?_cons])
    | cons d chunk =>
      rw [cons_append, List.cons.injEq] at follows
      exact plain ⟨[], chunk, by rw [follows.1]; rfl⟩

lemma scan_weave (plain : IsPlainText first) (plains : ∀ piece ∈ pieces, IsPlainText piece.2)
    (quoteless : ∀ piece ∈ pieces, '"' ∉ piece.1.toList) :
    placeholdersFrom none (weave first pieces) = pieces.map (·.1) := by
  induction pieces generalizing first with
  | nil =>
    have all : placeholdersFrom none (first ++ []) = placeholdersFrom none [] :=
      scan_plain plain nofun
    rwa [append_nil] at all
  | cons piece pieces ih =>
    obtain ⟨plainNext, plains⟩ := forall_mem_cons.1 plains
    obtain ⟨quotelessName, quoteless⟩ := forall_mem_cons.1 quoteless
    rw [weave, scan_plain plain (by simp), scan_placeholder quotelessName,
      ih plainNext plains quoteless, map_cons]

lemma upTo_eq_take (forward : 0 ≤ offset) : Slice.upTo text offset = text.take offset.toNat := by
  have inside : ¬ offset < 0 := by omega
  rw [Slice.upTo, Slice.place, if_neg inside, ← List.take_take, List.take_length]

lemma since_eq_drop (forward : 0 ≤ offset) : Slice.since text offset = text.drop offset.toNat := by
  have inside : ¬ offset < 0 := by omega
  rw [Slice.since, Slice.place, if_neg inside]
  rcases Nat.le_total offset.toNat text.length with within | past
  · rw [Nat.min_eq_left within]
  · simp_all

lemma upTo_append (behind : (done.length : Int) ≤ offset) :
    Slice.upTo (done ++ rest) offset = done ++ rest.take (offset - done.length).toNat := by
  have whole : done.length ≤ offset.toNat := by omega
  have same : offset.toNat - done.length = (offset - done.length).toNat := by omega
  rw [upTo_eq_take (by omega), List.take_append, List.take_of_length_le whole, same]

lemma since_append (behind : (done.length : Int) ≤ offset) :
    Slice.since (done ++ rest) offset = rest.drop (offset - done.length).toNat := by
  have whole : done.length ≤ offset.toNat := by omega
  have same : offset.toNat - done.length = (offset - done.length).toNat := by omega
  rw [since_eq_drop (by omega), List.drop_append, List.drop_eq_nil_of_le whole, same, nil_append]

lemma substitute_woven {references : List Reference} (apart : references.Pairwise Apart)
    (room : ∀ r ∈ references, r.start + r.name.length ≤ r.stop + 1)
    (ahead : ∀ r ∈ references, (done.length : Int) ≤ r.start + offset) :
    ∃ first pieces, substitute declared references offset (done ++ rest) =
        done ++ weave first pieces ∧
      pieces.map (·.1) = (declaredAmong declared references).map (·.name) ∧
      first <:+: rest ∧ ∀ piece ∈ pieces, piece.2 <:+: rest := by
  induction references generalizing offset done rest with
  | nil => exact ⟨rest, [], rfl, rfl, List.infix_rfl, nofun⟩
  | cons r references ih =>
    obtain ⟨behind, apart⟩ := pairwise_cons.1 apart
    obtain ⟨own, room⟩ := forall_mem_cons.1 room
    obtain ⟨here, ahead⟩ := forall_mem_cons.1 ahead
    rw [substitute]
    split
    case isTrue known =>
      let chunk := rest.take (r.start + offset - done.length).toNat
      let later := rest.drop (r.stop + offset + 1 - done.length).toNat
      have longer : ∀ q ∈ references,
          ((done ++ chunk ++ r.placeholder.toList).length : Int) ≤ q.start + (offset + 3) := by
        intro q mem
        have next := behind q mem
        have short : chunk.length ≤ (r.start + offset - done.length).toNat :=
          List.length_take_le _ _
        have size : r.placeholder.toList.length = r.name.length + 3 := by
          simp [Reference.placeholder_eq, String.length_toList]
        unfold Apart at next
        rw [length_append, length_append, size]
        omega
      obtain ⟨first, pieces, whole, names, inside, insides⟩ := ih apart room longer
      have part : later <:+: rest := (List.drop_suffix _ _).isInfix
      refine ⟨chunk, (r.name, first) :: pieces, ?_, ?_, (List.take_prefix _ _).isInfix, ?_⟩
      · rw [upTo_append here, since_append (by omega), whole]
        simp [weave, Reference.placeholder_eq]
      · rw [map_cons, names, declaredAmong_known known, map_cons]
      · exact forall_mem_cons.2 ⟨inside.trans part, fun piece mem => (insides piece mem).trans part⟩
    case isFalse unknown =>
      obtain ⟨first, pieces, whole, names, inside, insides⟩ := ih apart room ahead
      refine ⟨first, pieces, whole, ?_, inside, insides⟩
      rw [names, declaredAmong_unknown unknown]

variable {references : List Reference} {r : Reference}

lemma mem_roots_distinct {kept : List Reference} :
    root ∈ (references.foldl (fun kept r => if kept.any r.sameVariable then kept else kept ++ [r])
      kept).map (·.root) ↔ root ∈ kept.map (·.root) ∨ root ∈ references.map (·.root) := by
  induction references generalizing kept with
  | nil => simp
  | cons r references ih =>
    rw [List.foldl_cons, ih, map_cons, mem_cons]
    split
    case isTrue known =>
      obtain ⟨other, mem, same⟩ := List.any_eq_true.1 known
      have is : r.root ∈ kept.map (·.root) := by
        rw [eq_of_beq same]
        exact mem_map_of_mem mem
      grind
    case isFalse new => rw [map_append, mem_append, List.map_singleton, mem_singleton, or_assoc]

lemma mem_roots_bound : root ∈ (bound declared references).map (·.root) ↔
      root ∈ (declaredAmong declared references).map (·.root) := by
  have distinctRoots : root ∈ (distinct references).map (·.root) ↔
      root ∈ references.map (·.root) := by
    rw [distinct, mem_roots_distinct]
    simp
  simp only [bound, declaredAmong, mem_map, List.mem_mergeSort] at distinctRoots ⊢
  constructor
  · grind
  · grind

lemma mem_intercalate (other : c ≠ '.') (mem : c ∈ (".".intercalate names).toList) :
    ∃ name ∈ names, c ∈ name.toList := by
  match names with
  | [] => simp at mem
  | [name] => exact ⟨name, mem_cons_self, by simpa using mem⟩
  | name :: next :: names =>
    rw [String.intercalate_cons_cons, String.toList_append, String.toList_append] at mem
    rcases mem_append.1 mem with front | back
    · grind
    · obtain ⟨found, inside, is⟩ := mem_intercalate other back
      exact ⟨found, mem_cons_of_mem _ inside, is⟩

lemma quoteless_name (words : ∀ name ∈ r.path, IsWord name) : '"' ∉ r.name.toList := by
  intro mem
  obtain ⟨name, inside, is⟩ := mem_intercalate (by decide) mem
  exact absurd ((words name inside).2 _ is) (by decide)

def origin (t : Tree Token) : Int := (t.firstToken?.map (·.start)).getD 0

def relative (shift : Int) : Found → Except Reject Reference
  | .reference r => .ok (r.moved shift)
  | .query _ => .error .misplaced

lemma query_eq (src) (declared : List String) (t) : query src declared t = (do
      let found ← collectAll src declared t.children
      let references ← found.mapM (relative (origin t))
      return bind (spannedText src t) references declared) :=
  rfl

lemma mapM_relative (mapped : found.mapM (relative shift) = .ok references) :
    ∃ rs : List Reference, found = rs.map .reference ∧ references = rs.map (·.moved shift) := by
  induction found generalizing references with
  | nil =>
    cases mapped
    exact ⟨[], rfl, rfl⟩
  | cons here found ih =>
    rw [mapM_cons] at mapped
    obtain ⟨r, first, rest⟩ := Compile.steps_of_bind mapped
    obtain ⟨others, later, made⟩ := Compile.steps_of_bind rest
    cases made
    obtain ⟨rs, rfl, rfl⟩ := ih later
    cases here with
    | reference q =>
      cases first
      exact ⟨q :: rs, rfl, rfl⟩
    | query text => cases first

lemma relative_references (rs : List Reference) (shift : Int) :
    (rs.map Found.reference).mapM (relative shift) = .ok (rs.map (·.moved shift)) := by
  induction rs with
  | nil => rfl
  | cons r rs ih =>
    rw [map_cons, mapM_cons, ih]
    rfl

lemma query_iff : query src declared t = .ok (sql, bounds) ↔
    ∃ rs : List Reference, collectAll src declared t.children = .ok (rs.map .reference) ∧
      bind (spannedText src t) (rs.map (·.moved (origin t))) declared = (sql, bounds) := by
  rw [query_eq]
  constructor
  · intro queried
    obtain ⟨found, collected, rest⟩ := Compile.steps_of_bind queried
    obtain ⟨references, mapped, made⟩ := Compile.steps_of_bind rest
    obtain ⟨rs, rfl, rfl⟩ := mapM_relative mapped
    exact ⟨rs, collected, Except.ok.inj made⟩
  · rintro ⟨rs, collected, made⟩
    rw [collected]
    change ((rs.map Found.reference).mapM (relative (origin t)) >>= _) = _
    rw [relative_references]
    exact congrArg Except.ok made

/-- Tokens that come one behind the other and end in a text. -/
structure Strung (src : String) (tokens : List Token) : Prop where
  ordered : tokens.Pairwise fun a b => a.stop < b.start
  pieces : ∀ token ∈ tokens, IsPiece src token

lemma IsRead.strung (read : IsRead src [t]) : Strung src t.leaves := by
  obtain ⟨pieces, ordered, -⟩ := read
  rw [show Tree.leavesAll [t] = t.leaves by simp [Tree.leavesAll]] at pieces ordered
  exact ⟨ordered.imp And.left, pieces⟩

section

variable {t : Tree Token} (strung : Strung src t.leaves)
include strung

lemma start_le (initial : t.firstToken? = some first) (mem : token ∈ t.leaves) :
    first.start ≤ token.start := by
  obtain ⟨rest, same⟩ := List.head?_eq_some_iff.1 initial
  have forward := (strung.pieces first (List.mem_of_mem_head? initial)).forward
  have ordered := strung.ordered
  rw [same] at mem ordered
  rcases mem_cons.1 mem with rfl | later
  · exact Nat.le_refl _
  · have behind := (pairwise_cons.1 ordered).1 token later
    omega

lemma stop_le (final : t.lastToken? = some last) (mem : token ∈ t.leaves) :
    token.stop ≤ last.stop := by
  obtain ⟨front, same⟩ := List.getLast?_eq_some_iff.1 final
  have forward := (strung.pieces last (List.mem_of_getLast? final)).forward
  have ordered := strung.ordered
  rw [same] at mem ordered
  rcases mem_append.1 mem with earlier | here
  · have behind := (pairwise_append.1 ordered).2.2 token earlier last mem_cons_self
    omega
  · exact mem_singleton.1 here ▸ Nat.le_refl _

/-- The text that a phrase spans is the part of the source from its first token to its last. -/
lemma spannedText_part (initial : t.firstToken? = some first) (final : t.lastToken? = some last) :
    ∃ before after, src.toList = before ++ (spannedText src t).toList ++ after ∧
      before.length = first.start ∧
      before.length + (spannedText src t).toList.length = last.stop + 1 := by
  have begins := start_le strung initial (List.mem_of_getLast? final)
  obtain ⟨forward, ends, -⟩ := strung.pieces last (List.mem_of_getLast? final)
  have text : (spannedText src t).toList =
      (src.toList.drop first.start).take (last.stop + 1 - first.start) := by
    rw [spannedText, initial, final]
    exact String.toList_ofList
  refine ⟨src.toList.take first.start,
    (src.toList.drop first.start).drop (last.stop + 1 - first.start), ?_, ?_, ?_⟩
  · rw [text, append_assoc, List.take_append_drop, List.take_append_drop]
  · rw [length_take]
    omega
  · grind

/-- The text that a phrase spans holds each of its tokens, as far behind its start as the token is
behind the first one. -/
lemma token_in_spannedText (mem : token ∈ t.leaves) : origin t ≤ token.start ∧
    token.stop - origin t < ((spannedText src t).toList.length : Int) ∧
      token.text.toList <+: (spannedText src t).toList.drop (token.start - origin t).toNat := by
  have nonempty := List.ne_nil_of_mem mem
  have initial : t.firstToken? = some _ := List.head?_eq_some_head nonempty
  have final : t.lastToken? = some _ := List.getLast?_eq_some_getLast nonempty
  have begins := start_le strung initial mem
  have ends := stop_le strung final mem
  obtain ⟨forward, -, text⟩ := strung.pieces token mem
  obtain ⟨before, after, whole, start, stop⟩ := spannedText_part strung initial final
  have same : origin t = before.length := by simp [origin, initial, start]
  obtain ⟨i, is⟩ := Nat.exists_eq_add_of_le (show before.length ≤ token.start by omega)
  rw [same]
  refine ⟨by omega, by omega, ?_⟩
  rw [text, whole, append_assoc, is, List.drop_length_add_append,
    List.drop_append_of_le_length (by omega),
    List.take_append_of_le_length (by rw [length_drop]; omega),
    show ((before.length + i : Nat) - (before.length : Int)).toNat = i by omega]
  exact List.take_prefix _ _

end

/-- What was found in a tree that was read: references that stand apart, with room for their names,
none before the tree. -/
structure IsOrdered (t : Tree Token) (rs : List Reference) : Prop where
  stand : ∀ r ∈ rs, StandsAmong t.leaves r
  apart : rs.Pairwise Apart
  ahead : ∀ r ∈ rs, origin t ≤ r.start

lemma isOrdered_of_read (read : IsRead src [.node kind ts]) (other : kind ≠ .regularId)
    (collected : collectAll src declared ts = .ok (references.map .reference)) :
    IsOrdered (.node kind ts) references := by
  obtain ⟨pieces, ordered, names⟩ := read.children other
  obtain ⟨stand, apart⟩ := references_stand placing_names names pieces ordered collected
  refine ⟨stand, apart, fun r mem => ?_⟩
  obtain ⟨token, inside, -, start⟩ := (stand r mem).first
  rw [start]
  exact (token_in_spannedText read.strung inside).1

lemma declaredAmong_moved (shift : Int) : declaredAmong declared (references.map (·.moved shift)) =
      (declaredAmong declared references).map (·.moved shift) := by
  rw [declaredAmong, List.filter_map]
  rfl

/-- The placeholders of a query are those of the declared references in it. -/
lemma placeholders_bind (ordered : IsOrdered t references)
    (plain : IsPlainText (spannedText src t).toList)
    (made : bind (spannedText src t) (references.map (·.moved (origin t))) declared =
      (sql, bounds)) :
    placeholders sql = (declaredAmong declared references).map (·.name) := by
  have text : sql = String.ofList (substitute declared (references.map (·.moved (origin t))) 0
      (spannedText src t).toList) := (congrArg Prod.fst made).symm
  have apart : (references.map (·.moved (origin t))).Pairwise Apart := by
    refine List.pairwise_map.2 (ordered.apart.imp fun {a b} gap => ?_)
    change a.stop - origin t + 1 < b.start - origin t
    unfold Apart at gap
    omega
  have room : ∀ r ∈ references.map (·.moved (origin t)),
      r.start + (r.name.length : Int) ≤ r.stop + 1 := by
    intro q mem
    obtain ⟨r, inside, rfl⟩ := mem_map.1 mem
    have own := (ordered.stand r inside).room
    change r.start - origin t + r.name.length ≤ r.stop - origin t + 1
    omega
  have ahead : ∀ r ∈ references.map (·.moved (origin t)),
      (([] : List Char).length : Int) ≤ r.start + 0 := by
    intro q mem
    obtain ⟨r, inside, rfl⟩ := mem_map.1 mem
    have own := ordered.ahead r inside
    change (0 : Int) ≤ r.start - origin t + 0
    omega
  obtain ⟨first, pieces, whole, names, inside, insides⟩ :
      ∃ first pieces, substitute declared (references.map (·.moved (origin t))) 0
          ([] ++ (spannedText src t).toList) = [] ++ weave first pieces ∧ _ :=
    substitute_woven apart room ahead
  rw [declaredAmong_moved, List.map_map] at names
  have quoteless : ∀ piece ∈ pieces, '"' ∉ piece.1.toList := by
    intro piece mem
    have among : piece.1 ∈ (declaredAmong declared references).map (·.name) :=
      names ▸ mem_map_of_mem mem
    obtain ⟨r, inside, is⟩ := mem_map.1 among
    rw [← is]
    exact quoteless_name (ordered.stand r (mem_filter.1 inside).1).words
  rw [nil_append, nil_append] at whole
  rw [placeholders, text, whole, String.toList_ofList,
    scan_weave (plain.part inside) (fun piece mem => plain.part (insides piece mem)) quoteless,
    names]
  rfl

end BlockScript.Embedded
