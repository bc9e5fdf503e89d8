import BlockScript.Proofs.Rewriting

/-!
Placeholders for references that come with their places in a text.
-/

namespace BlockScript.Embedded


/-- References with their places in what is left of a text from a position on. -/
structure Placed (rs : List Reference) (position : Int) (text : List Char) : Prop where
  ordered : rs.Pairwise fun a b => a.stop < b.start
  compact : ∀ r ∈ rs, IsCompact r
  ahead : ∀ r ∈ rs, position ≤ r.start
  within : ∀ r ∈ rs, r.stop - position < text.length

lemma Placed.tail (placed : Placed (r :: rs) pos text) :
    Placed rs (r.stop + 1) (text.drop (r.stop + 1 - pos).toNat) := by
  obtain ⟨behind, ordered⟩ := pairwise_cons.1 placed.ordered
  obtain ⟨here, -⟩ := forall_mem_cons.1 placed.ahead
  obtain ⟨own, compact⟩ := forall_mem_cons.1 placed.compact
  obtain ⟨inside, within⟩ := forall_mem_cons.1 placed.within
  refine ⟨ordered, compact, fun q mem => ?_, fun q mem => ?_⟩
  · grind
  · have further := within q mem
    unfold IsCompact at own
    rw [length_drop]
    omega

lemma Placed.filter (placed : Placed rs pos text) (keep : Reference → Bool) :
    Placed (rs.filter keep) pos text where
  ordered := placed.ordered.filter _
  compact r member := placed.compact r (mem_filter.1 member).1
  ahead r member := placed.ahead r (mem_filter.1 member).1
  within r member := placed.within r (mem_filter.1 member).1

/-- The offset is the distance between the two texts at every reference: each placeholder is three
characters longer than the place it is put in. -/
lemma Placed.substitute_eq (all : ∀ r ∈ rs, declared.contains r.root = true)
    (placed : Placed rs pos rest) (aligned : (done.length : Int) = pos + offset) :
    substitute declared rs offset (done ++ rest) = done ++ rewritten rs pos rest := by
  induction rs generalizing done rest pos offset with
  | nil => rfl
  | cons r rs ih =>
    obtain ⟨known, others⟩ := forall_mem_cons.1 all
    have compact : r.stop + 1 = r.start + r.name.length := placed.compact r mem_cons_self
    have inside : r.stop + 1 - pos ≤ rest.length := by
      have within := placed.within r mem_cons_self
      omega
    obtain ⟨done', step, target, size⟩ := substitute_step rs known
      (placed.ahead r mem_cons_self) compact.ge inside aligned
    rw [step, target]
    exact ih others placed.tail (by omega)

/-- Every place of a declared variable, and nothing else, is replaced, and the variables handed on
are the declared ones among those referred to, each once. -/
theorem bind_exact (query : String) (declared : List String)
    (placed : Placed rs 0 query.toList) :
    (bind query rs declared).1.toList = rewritten (declaredAmong declared rs) 0 query.toList ∧
      ((bind query rs declared).2.map (·.root)).Nodup ∧
      ∀ root, root ∈ (bind query rs declared).2.map (·.root) ↔
        root ∈ rs.map (·.root) ∧ root ∈ declared := by
  refine ⟨?_, nodup_roots_bound, fun root => ?_⟩
  · have all : ∀ r ∈ declaredAmong declared rs, declared.contains r.root = true :=
      fun r member => (mem_filter.1 member).2
    have whole : substitute declared (declaredAmong declared rs) 0 ([] ++ query.toList) =
        [] ++ rewritten (declaredAmong declared rs) 0 query.toList :=
      (placed.filter _).substitute_eq all rfl
    rw [bind, String.toList_ofList, substitute_declaredAmong]
    exact whole
  · rw [bind, mem_roots_bound]
    simp only [declaredAmong, mem_map, mem_filter, contains_iff_mem]
    constructor
    · rintro ⟨r, ⟨member, known⟩, rfl⟩
      exact ⟨⟨r, member, rfl⟩, known⟩
    · rintro ⟨⟨r, member, rfl⟩, known⟩
      exact ⟨r, ⟨member, known⟩, rfl⟩

/-- Two variables side by side, one that is not declared, and one for the second time. -/
theorem adjacent_bound :
    (bind "A=XYZX" [⟨"X", [], 2, 2⟩, ⟨"Y", [], 3, 3⟩, ⟨"Z", [], 4, 4⟩, ⟨"X", [], 5, 5⟩]
        ["Y", "X"]).1 = "A=:\"X\":\"Y\"Z:\"X\"" := by
  have placed : Placed [⟨"X", [], 2, 2⟩, ⟨"Y", [], 3, 3⟩, ⟨"Z", [], 4, 4⟩, ⟨"X", [], 5, 5⟩] 0
      "A=XYZX".toList := ⟨by decide, by decide, by decide, by decide⟩
  rw [← String.toList_inj, (bind_exact _ _ placed).1]
  decide

end BlockScript.Embedded
