import BlockScript.Proofs.Rewriting
import BlockScript.Proofs.TokenOffsets

/-!
The order of the references of a query. Those that are collected in a phrase stand one behind the
other in its text, each from the identifier that is its root.
-/

namespace BlockScript.Embedded

/-- A reference runs from its root, a name among some tokens, to that name or another. -/
structure RunsAmong (tokens : List Token) (r : Reference) : Prop where
  first : ∃ k ∈ tokens, IsName k ∧ r.root = k.text.toUpper ∧ r.start = k.start
  last : ∃ k ∈ tokens, r.stop = k.stop
  forward : r.start ≤ r.stop

lemma placing_words : Placing (fun a b => a.stop < b.start) (IsPiece src) RunsAmong
    fun r q => r.stop < q.start where
  word piece name := by
    refine ⟨⟨_, mem_cons_self, name, rfl, rfl⟩, ⟨_, mem_cons_self, rfl⟩, ?_⟩
    exact Int.ofNat_le.2 piece.forward
  mono runs subset := by
    obtain ⟨⟨a, inA, first⟩, ⟨b, inB, last⟩, ahead⟩ := runs
    exact ⟨⟨a, subset inA, first⟩, ⟨b, subset inB, last⟩, ahead⟩
  gap behind first second := by
    obtain ⟨a, inA, stop⟩ := first.last
    obtain ⟨b, inB, -, -, start⟩ := second.first
    rw [stop, start]
    exact Int.ofNat_lt.2 (behind a inA b inB)
  join first second apart := by
    have ahead := first.forward
    have later := second.forward
    exact ⟨first.first, second.last, by dsimp only [Reference.join]; omega⟩

/-- The references of a query are in the order of its text: each begins with the identifier that is
its root, ends in the text, and lies before the next. -/
theorem query_references_ordered {text : String} {found : Scan} {kind : Nonterminal}
    {ts : List (Tree Token)} {declared : List String} {result : String × List Reference}
    (scanned : Script.tokens text = .ok found) (part : (Tree.node kind ts).leaves.Sublist found.tokens)
    (names : ∀ t ∈ ts, HasNames t) (rewritten : query text declared (.node kind ts) = .ok result) :
    ∃ rs shifted : List Reference, collectAll text declared ts = .ok (rs.map .reference) ∧
      shifted = rs.map (·.moved (origin (.node kind ts))) ∧
      result = bind (spannedText text (.node kind ts)) shifted declared ∧
      (∀ r ∈ shifted, 0 ≤ r.start ∧ r.start ≤ r.stop ∧
        r.stop < (spannedText text (.node kind ts)).length ∧
        ∃ k ∈ Tree.leavesAll ts, IsName k ∧ r.root = k.text.toUpper ∧
          k.text.toList <+: (spannedText text (.node kind ts)).toList.drop r.start.toNat) ∧
      shifted.Pairwise fun r next => r.stop < next.start := by
  obtain ⟨rs, collected, made⟩ := query_iff.1 rewritten
  have strung := (Script.cuts_scan scanned).strung part
  obtain ⟨runs, apart⟩ :=
    references_stand placing_words names strung.pieces strung.ordered collected
  refine ⟨rs, _, collected, rfl, made.symm, forall_mem_map.2 fun r mem => ?_, ?_⟩
  · obtain ⟨⟨k, own, name, root, start⟩, ⟨q, last, stop⟩, ahead⟩ := runs r mem
    obtain ⟨near, -, spelled⟩ := token_in_spannedText (t := .node kind ts) strung own
    obtain ⟨-, ends, -⟩ := token_in_spannedText (t := .node kind ts) strung last
    rw [← start] at near spelled
    rw [← stop, String.length_toList] at ends
    refine ⟨Int.sub_nonneg.2 near, Int.sub_le_sub_right ahead _, ends, k, own, name, root, spelled⟩
  · exact List.pairwise_map.2 (apart.imp fun before => Int.sub_lt_sub_right before _)

def deletion : String := "delete from users where id = num"

def wordOf (k : Token) : Tree Token :=
  if k.kind = .REGULAR_ID then .node .regularId [.leaf k] else .leaf k

def deletionTree : Tree Token := .node .deleteStatement ((scan deletion).tokens.map wordOf)

lemma leavesAll_wordOf (ks : List Token) : Tree.leavesAll (ks.map wordOf) = ks := by
  induction ks with
  | nil => rfl
  | cons k ks ih =>
    rw [map_cons, Tree.leavesAll, ih, wordOf]
    split <;> rfl

theorem deletion_references_ordered : ∃ found result, Script.tokens deletion = .ok found ∧
    deletionTree.leaves.Sublist found.tokens ∧ (∀ t ∈ deletionTree.children, HasNames t) ∧
    query deletion ["NUM"] deletionTree = .ok result ∧
    ∃ rs : List Reference, result = bind (spannedText deletion deletionTree) rs ["NUM"] ∧
      rs.Pairwise fun r next => r.stop < next.start := by
  have scanned := @Script.tokens_of_clean deletion (by decide +kernel) (by decide +kernel)
  have part : deletionTree.leaves.Sublist (scan deletion).tokens := by
    rw [deletionTree, Tree.leaves, leavesAll_wordOf]
  have names := HasNames.of_hasNamesAll deletionTree.children (by decide +kernel)
  have found : (query deletion ["NUM"] deletionTree).toOption.isSome = true := by decide +kernel
  cases rewritten : query deletion ["NUM"] deletionTree with
  | error => simp [rewritten, Except.toOption] at found
  | ok result =>
    obtain ⟨_, rs, -, -, same, -, apart⟩ :=
      query_references_ordered scanned part names rewritten
    exact ⟨_, result, scanned, part, names, rfl, rs, same, apart⟩

end BlockScript.Embedded
