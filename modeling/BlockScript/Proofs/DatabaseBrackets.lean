import BlockScript.Proofs.ConnectionStack

/-!
Work on connections of its own. Some connections are open, and others are opened above them.
-/

namespace BlockScript

def Event.isWork : Event → Bool
  | .execute .. | .commit | .rollback => true
  | _ => false

namespace Database

/-- In the end the connections are as before, and no work was done on them. -/
structure Brackets (d d' : Database) : Prop where
  connections : d'.connections = d.connections
  apart : ∃ more, d'.entries = d.entries ++ more ∧
    ∀ entry ∈ more, entry.event.isWork = true → entry.connection ∉ d.ids

/-- How many connections are open above some others after a move, unless the move is on one of the
others. -/
def rises (isAlone : Bool) : Nat → Move → Option Nat
  | above, .connect => some (above + 1)
  | above + 1, .execute => some (above + 1)
  | above + 1, .commit | above + 1, .rollback | above + 1, .close => some above
  | 0, .close => if isAlone then some 0 else none
  | 0, _ => none

def IsBalanced (isAlone : Bool) (above : Nat) (moves : List Move) : Prop :=
  moves.foldlM (rises isAlone) above = some 0

instance (isAlone : Bool) (above : Nat) (moves : List Move) :
    Decidable (IsBalanced isAlone above moves) :=
  inferInstanceAs (Decidable (_ = _))

variable {d d' d'' : Database}

structure Stands (base above : List Connection) (d : Database) : Prop where
  stack : d.connections = above ++ base
  apart : ∀ c ∈ above, ∀ b ∈ base, c.id ≠ b.id
  old : ∀ b ∈ base, b.id < d.made

def SparedIn (base : List Connection) (d d' : Database) : Prop :=
  ∃ more, d'.entries = d.entries ++ more ∧
    ∀ entry ∈ more, entry.event.isWork = true → entry.connection ∉ base.map (·.id)

def ReachedIn (base : List Connection) (d d' : Database) : Prop :=
  ∃ more, d'.entries = d.entries ++ more ∧
    ∃ entry ∈ more, entry.event.isWork = true ∧ entry.connection ∈ base.map (·.id)

structure Lost (base : List Connection) (d : Database) : Prop where
  old : ∀ b ∈ base, b.id < d.made
  stack : ∃ new left, d.ids = new ++ left ∧ left.length < base.length ∧
    ∀ id ∈ new, ∀ b ∈ base, b.id < id

lemma tail_of_closeTop (d : Database) :
    d.closeTop.made = d.made ∧ (d.closeTop.ids = d.ids ∨ d.closeTop.ids = d.ids.tail) := by
  unfold closeTop
  split
  case _ is => exact ⟨rfl, .inr (by rw [ids, ids, is]; rfl)⟩
  case _ => exact ⟨rfl, .inl rfl⟩

lemma Moves.ids (moved : Moves kind d d') : d'.made = d.made + 1 ∧ d'.ids = d.made :: d.ids ∨
      d'.made = d.made ∧ (d'.ids = d.ids ∨ d'.ids = d.ids.tail) := by
  have ended (id e) {f : Connection → Connection} (same : ∀ c, (f c).id = c.id) :=
    ids_update (d.record id e) id same ▸ tail_of_closeTop ((d.record id e).update id f)
  cases moved with
  | connect => exact .inl ⟨rfl, rfl⟩
  | execute => exact .inr ⟨rfl, .inl rfl⟩
  | commit => exact .inr (ended _ .commit fun _ => rfl)
  | rollback => exact .inr (ended _ .rollback fun _ => rfl)
  | close => exact .inr (tail_of_closeTop d)

namespace Lost

lemma rest (lost : Lost base d) (rests : d.Rests d') : Lost base d' where
  old := rests.made ▸ lost.old
  stack := by
    rw [ids, rests.connections]
    exact lost.stack

lemma move (lost : Lost base d) (moved : Moves kind d d') : Lost base d' := by
  obtain ⟨new, left, stack, fewer, later⟩ := lost.stack
  rcases moved.ids with ⟨made, now⟩ | ⟨made, same | tail⟩
  · refine ⟨fun b mem => ?_, d.made :: new, left, by rw [now, stack]; rfl, fewer, ?_⟩
    · have := lost.old b mem
      omega
    · intro id mem b isBase
      rcases mem_cons.1 mem with rfl | mem
      · exact lost.old b isBase
      · exact later id mem b isBase
  · exact ⟨made ▸ lost.old, new, left, same.trans stack, fewer, later⟩
  · refine ⟨made ▸ lost.old, ?_⟩
    rw [tail, stack]
    cases new with
    | nil =>
      refine ⟨[], left.tail, rfl, ?_, nofun⟩
      rw [List.length_tail]
      omega
    | cons id new => exact ⟨new, left, rfl, fewer, fun id mem => later id (mem_cons_of_mem _ mem)⟩

lemma runs (lost : Lost base d) (runs : Runs moves d d') : Lost base d' := by
  induction runs with
  | rest rests => exact lost.rest rests
  | move rests moved _ ih => exact ih ((lost.rest rests).move moved)

lemma ne (lost : Lost base d) : d.connections ≠ base := by
  rintro same
  obtain ⟨new, left, stack, fewer, later⟩ := lost.stack
  have length := congrArg List.length stack
  rw [ids, same, length_map, length_append] at length
  cases new with
  | nil =>
    rw [List.length_nil] at length
    omega
  | cons id new =>
    have mem : id ∈ d.ids := by
      rw [stack]
      exact mem_cons_self
    rw [ids, same] at mem
    obtain ⟨b, isBase, rfl⟩ := mem_map.1 mem
    exact Nat.lt_irrefl _ (later _ mem_cons_self b isBase)

end Lost

lemma SparedIn.trans (first : SparedIn base d d') (second : SparedIn base d' d'') :
    SparedIn base d d'' := by
  obtain ⟨more, grown, apart⟩ := first
  obtain ⟨more', grown', apart'⟩ := second
  refine ⟨more ++ more', by rw [grown', grown, append_assoc], fun entry mem => ?_⟩
  exact (mem_append.1 mem).elim (apart entry) (apart' entry)

lemma SparedIn.of_rests (rests : d.Rests d') : SparedIn base d d' :=
  ⟨[], rests.entries.trans (append_nil _).symm, nofun⟩

lemma ReachedIn.later (reached : ReachedIn base d d') (runs : Runs moves d' d'') :
    ReachedIn base d d'' := by
  obtain ⟨more, grown, entry, mem, isReached⟩ := reached
  obtain ⟨more', grown'⟩ := runs.grows
  exact ⟨more ++ more', by rw [grown', grown, append_assoc], entry,
    mem_append_left _ mem, isReached⟩

lemma ReachedIn.behind (reached : ReachedIn base d' d'') (spared : SparedIn base d d') :
    ReachedIn base d d'' := by
  obtain ⟨more, grown, -⟩ := spared
  obtain ⟨more', grown', entry, mem, isReached⟩ := reached
  exact ⟨more ++ more', by rw [grown', grown, append_assoc], entry,
    mem_append_right _ mem, isReached⟩

lemma ReachedIn.not_spared (reached : ReachedIn base d d') : ¬ SparedIn base d d' := by
  rintro ⟨more, grown, apart⟩
  obtain ⟨more', grown', entry, mem, isWork, onBase⟩ := reached
  rw [grown, List.append_cancel_left_eq] at grown'
  subst grown'
  exact apart entry mem isWork onBase

lemma closeTop_of_two (stack : d.connections = c :: others) (more : others ≠ []) :
    d.closeTop = { d.record c.id .close with connections := others } := by
  obtain ⟨next, rest, rfl⟩ := List.exists_cons_of_ne_nil more
  unfold closeTop
  rw [stack]

def Outcome (base : List Connection) (d d' : Database) : Option Nat → Prop
  | some n => ∃ above, above.length = n ∧ Stands base above d' ∧ SparedIn base d d'
  | none => ReachedIn base d d' ∨ Lost base d'

lemma Outcome.behind (outcome : Outcome base d' d'' number) (spared : SparedIn base d d') :
    Outcome base d d'' number := by
  cases number with
  | none => exact outcome.imp_left (·.behind spared)
  | some n =>
    obtain ⟨above, length, stands, spared'⟩ := outcome
    exact ⟨above, length, stands, spared.trans spared'⟩

namespace Stands

lemma rest (stands : Stands base above d) (rests : d.Rests d') : Stands base above d' where
  stack := rests.connections.trans stands.stack
  apart := stands.apart
  old := rests.made ▸ stands.old

lemma connect (stands : Stands base above d) (target : Snapshot) :
    Stands base ({ id := d.made } :: above) (d.connect target) where
  stack := congrArg (_ :: ·) stands.stack
  apart c mem b isBase := by
    rcases mem_cons.1 mem with rfl | mem
    · exact Nat.ne_of_gt (stands.old b isBase)
    · exact stands.apart c mem b isBase
  old b isBase := Nat.lt_succ_of_lt (stands.old b isBase)

lemma top_above (stands : Stands base (c :: above) d) (isTop : d.top? = some top) : top = c := by
  rw [top?, stands.stack] at isTop
  exact (Option.some.inj isTop).symm

lemma top_base (stands : Stands base [] d) (isTop : d.top? = some top) : top ∈ base := by
  rw [top?, stands.stack] at isTop
  exact List.mem_of_mem_head? isTop

section

variable (stands : Stands base (c :: above) d)
include stands

lemma update (same : ∀ c, (f c).id = c.id) :
    Stands base ((c :: above).map fun b => if b.id = c.id then f b else b) (d.update c.id f) where
  stack := by
    have kept : base.map (fun b => if b.id = c.id then f b else b) = base := by
      refine (map_congr_left fun b isBase => ?_).trans (List.map_id base)
      exact if_neg (stands.apart c mem_cons_self b isBase).symm
    change d.connections.map _ = _
    rw [stands.stack, map_append, kept]
  apart b' mem b isBase := by
    obtain ⟨b'', isAbove, rfl⟩ := mem_map.1 mem
    have apart := stands.apart b'' isAbove b isBase
    split
    · rwa [same]
    · exact apart
  old := stands.old

lemma close (some : base ≠ []) : Stands base above d.closeTop ∧ SparedIn base d d.closeTop := by
  have more : above ++ base ≠ [] := List.append_ne_nil_of_right_ne_nil above some
  rw [closeTop_of_two stands.stack more]
  refine ⟨⟨rfl, fun c' mem => stands.apart c' (mem_cons_of_mem _ mem), stands.old⟩, ?_⟩
  refine ⟨_, rfl, fun entry mem isWork => ?_⟩
  rw [mem_singleton.1 mem] at isWork
  cases isWork

lemma spared (e : Event) : SparedIn base d (d.record c.id e) := by
  refine ⟨_, rfl, fun entry mem _ onBase => ?_⟩
  rw [mem_singleton.1 mem] at onBase
  obtain ⟨b, isBase, same⟩ := mem_map.1 onBase
  exact stands.apart c mem_cons_self b isBase same.symm

lemma ended (some : base ≠ []) (e : Event) (same : ∀ c, (f c).id = c.id) :
    ∃ above', above'.length = above.length ∧
      Stands base above' ((d.record c.id e).update c.id f).closeTop ∧
      SparedIn base d ((d.record c.id e).update c.id f).closeTop := by
  have recorded : Stands base (c :: above) (d.record c.id e) :=
    ⟨stands.stack, stands.apart, stands.old⟩
  obtain ⟨closed, spared⟩ := (recorded.update same).close some
  exact ⟨_, length_map _, closed, (stands.spared e).trans spared⟩

end

lemma reached (stands : Stands base [] d) (isTop : d.top? = some top) (isWork : e.isWork = true) :
    ReachedIn base d (d.record top.id e) :=
  ⟨_, rfl, _, mem_singleton_self _, isWork, mem_map.2 ⟨top, stands.top_base isTop, rfl⟩⟩

lemma reached_ended (stands : Stands base [] d) (isTop : d.top? = some top)
    (isWork : e.isWork = true) (f : Connection → Connection) :
    ReachedIn base d ((d.record top.id e).update top.id f).closeTop := by
  obtain ⟨more, grown, entry, mem, isReached⟩ := stands.reached isTop isWork
  obtain ⟨more', grown'⟩ := (Moves.close ((d.record top.id e).update top.id f)).grows
  refine ⟨more ++ more', ?_, entry, mem_append_left _ mem, isReached⟩
  rw [grown', ← append_assoc, ← grown]
  rfl

lemma close_base (stands : Stands base [] d) (some : base ≠ []) :
    base.length = 1 ∧ d.closeTop = d ∨ base.length ≠ 1 ∧ Lost base d.closeTop := by
  have stack : d.connections = base := stands.stack
  rcases base with _ | ⟨b, _ | ⟨b', rest⟩⟩
  · exact absurd rfl some
  · have single : d.ids = [b.id] := by
      rw [ids, stack]
      rfl
    exact .inl ⟨rfl, closeTop_single single⟩
  · refine .inr ⟨by simp, ?_⟩
    rw [closeTop_of_two stack (cons_ne_nil _ _)]
    exact ⟨stands.old, [], _, rfl, by simp, by simp⟩

lemma move (stands : Stands base above d) (some : base ≠ []) (moved : Moves kind d d') :
    Outcome base d d' (rises (base.length == 1) above.length kind) := by
  cases moved with
  | connect _ target =>
    refine ⟨_, length_cons, stands.connect target, _, rfl, fun entry mem isWork => ?_⟩
    rw [mem_singleton.1 mem] at isWork
    cases isWork
  | execute isTop query binds =>
    cases above with
    | nil => exact .inl (stands.reached isTop rfl)
    | cons c above =>
      obtain rfl := stands.top_above isTop
      exact ⟨_, rfl, ⟨stands.stack, stands.apart, stands.old⟩, stands.spared _⟩
  | commit isTop | rollback isTop =>
    cases above with
    | nil => exact .inl (stands.reached_ended isTop rfl _)
    | cons c above =>
      obtain rfl := stands.top_above isTop
      exact stands.ended some _ fun _ => rfl
  | close =>
    cases above with
    | nil =>
      rcases stands.close_base some with ⟨single, same⟩ | ⟨several, lost⟩
      · rw [same, single]
        exact ⟨[], rfl, stands, .of_rests (.refl d)⟩
      · rw [beq_eq_false_iff_ne.2 several]
        exact .inr lost
    | cons c above =>
      obtain ⟨closed, spared⟩ := stands.close some
      exact ⟨_, rfl, closed, spared⟩

lemma runs (some : base ≠ []) (runs : Runs moves d d') : ∀ above, Stands base above d →
      Outcome base d d' (moves.foldlM (rises (base.length == 1)) above.length) := by
  induction runs with
  | rest rests => exact fun above stands => ⟨above, rfl, stands.rest rests, .of_rests rests⟩
  | @move d e e' d' move moves rests moved later ih =>
    intro above stands
    have before : SparedIn base d e := .of_rests rests
    have here := (stands.rest rests).move some moved
    rw [foldlM_cons]
    cases risen : rises (base.length == 1) above.length move with
    | none =>
      rw [risen] at here
      exact here.imp (fun reached => (reached.later later).behind before) (·.runs later)
    | some n =>
      rw [risen] at here
      obtain ⟨above', rfl, stands', spared⟩ := here
      exact (ih above' stands').behind (before.trans spared)

end Stands

/-- Moves bracket what they do just if they are balanced. -/
lemma brackets_iff (some : d.connections ≠ []) (old : ∀ c ∈ d.connections, c.id < d.made)
    (runs : Runs moves d d') :
    Brackets d d' ↔ IsBalanced (d.connections.length == 1) 0 moves := by
  have stands : Stands d.connections [] d := ⟨rfl, nofun, old⟩
  have outcome := Stands.runs some runs [] stands
  rw [List.length_nil] at outcome
  unfold IsBalanced
  cases risen : moves.foldlM (rises (d.connections.length == 1)) 0 with
  | some n =>
    rw [risen] at outcome
    obtain ⟨above, rfl, stands', spared⟩ := outcome
    constructor
    · intro brackets
      have length := congrArg List.length (stands'.stack.symm.trans brackets.connections)
      rw [length_append] at length
      exact congrArg Option.some (by omega)
    · intro none
      obtain rfl := length_eq_zero_iff.1 (Option.some.inj none)
      exact ⟨stands'.stack, spared⟩
  | none =>
    rw [risen] at outcome
    refine ⟨fun brackets => ?_, nofun⟩
    rcases outcome with reached | lost
    · exact absurd brackets.apart reached.not_spared
    · exact absurd brackets.connections lost.ne

inductive Move.IsWork : Move → Prop
  | execute : IsWork .execute
  | commit : IsWork .commit
  | rollback : IsWork .rollback

lemma isBalanced_nothing_iff (plain : ∀ move ∈ work, move.IsWork) :
    IsBalanced isAlone 0 work ↔ work = [] := by
  cases work with
  | nil => exact ⟨fun _ => rfl, fun _ => rfl⟩
  | cons move work =>
    refine ⟨fun balanced => ?_, nofun⟩
    cases plain move mem_cons_self <;> cases balanced

/-- Work on one connection of its own is balanced just if the connection is ended once, as the last
thing. -/
lemma isBalanced_work_iff (plain : ∀ move ∈ work, move.IsWork) :
    IsBalanced isAlone 1 work ↔ ∃ n last, work = List.replicate n .execute ++ [last] ∧
      (last = .commit ∨ last = .rollback) := by
  have single {last} {work} (ends : last = .commit ∨ last = .rollback)
      (later : ∀ move ∈ work, move.IsWork) (split : IsBalanced isAlone 0 work ↔
        IsBalanced isAlone 1 (last :: work)) :
      IsBalanced isAlone 1 (last :: work) ↔ ∃ n last', last :: work =
        List.replicate n .execute ++ [last'] ∧ (last' = .commit ∨ last' = .rollback) := by
    rw [← split, isBalanced_nothing_iff later]
    constructor
    · rintro rfl
      exact ⟨0, last, rfl, ends⟩
    · rintro ⟨n, last', same, -⟩
      cases n with
      | zero => exact (List.cons.inj same).2
      | succ n =>
        obtain ⟨rfl, -⟩ := List.cons.inj same
        rcases ends with ends | ends <;> cases ends
  induction work with
  | nil =>
    refine ⟨nofun, ?_⟩
    rintro ⟨n, last, same, -⟩
    exact absurd same.symm (List.append_ne_nil_of_right_ne_nil _ (cons_ne_nil _ _))
  | cons move work ih =>
    obtain ⟨here, later⟩ := forall_mem_cons.1 plain
    cases here with
    | execute =>
      refine (ih later).trans ⟨?_, ?_⟩
      · rintro ⟨n, last, rfl, ends⟩
        exact ⟨n + 1, last, rfl, ends⟩
      · rintro ⟨n, last, same, ends⟩
        cases n with
        | zero =>
          obtain ⟨rfl, -⟩ := List.cons.inj same
          rcases ends with ends | ends <;> cases ends
        | succ n => exact ⟨n, last, (List.cons.inj same).2, ends⟩
    | commit => exact single (.inl rfl) later Iff.rfl
    | rollback => exact single (.inr rfl) later Iff.rfl

end Database
end BlockScript
