import BlockScript.Proofs.Initialisers
import BlockScript.Proofs.Slots

/-!
Variables that share no cell. While a program runs, each declared variable that has a cell has one
of its own.
-/

namespace BlockScript

open Target Eval

/-- The calls that are going on: the frame of each with the names of its parameters, the innermost
first. -/
abbrev Calls := List (Nat × List String)

/-- The places of declared variables. -/
def Slot.Counts (calls : Calls) : Slot → Prop
  | .frame a x => ∃ parameters, (a, parameters) ∈ calls ∧ x ∉ parameters
  | _ => True

def Value.IsType : Value → Prop
  | .library _ | .tables _ => True
  | _ => False

def Function.IsTame (role : String → Role) (f : Function) : Prop :=
  f.parameters.all (role · = .free) = true ∧
    areTame role (ownVariables f.parameters f.body) false f.body = true

namespace Machine

def Suits (m : Machine) (role : Role) (name : String) (v : Value) : Prop :=
  match role with
  | .free => True
  | .routine => ∃ (a : Nat) (f : Function), v = .object a ∧ m.store.get? a = some (.function f)
  | .package => ∃ (a : Nat) (p : Package), v = .object a ∧ m.store.get? a = some (.package p)
  | .type => v.IsType
  | .library => Library.exported? name = some v

structure Separated (role : String → Role) (calls : Calls) (m : Machine) : Prop where
  suits : ∀ s v, m.slot? s = some v → m.Suits (role s.name) s.name v
  tame : ∀ (a : Nat) f, m.store.get? a = some (.function f) → f.IsTame role
  frames : ∀ call ∈ calls, ∃ f, m.store.get? call.1 = some (.frame f)
  order : calls.Pairwise fun inner outer => outer.1 < inner.1
  there : ∀ (s : Slot) (c : Nat), s.Counts calls → m.slot? s = some (.object c) → c < m.store.size
  /-- What a call declares is not older than the call. -/
  young : ∀ (a : Nat) x v, (Slot.frame a x).Counts calls → m.slot? (.frame a x) = some v →
    (∀ r, v ≠ .routine r) ∧ ∀ c : Nat, v = .object c → m.IsCell c → a < c
  apart : ∀ (s t : Slot) (c : Nat), s.Counts calls → t.Counts calls → m.IsCell c →
    m.slot? s = some (.object c) → m.slot? t = some (.object c) → m.SameVariable s t

def Steady (calls : Calls) (m m' : Machine) : Prop :=
  ∀ (s : Slot) (c : Nat), s.Counts calls → c < m.store.size → m'.IsCell c →
    m'.slot? s = some (.object c) → ∃ s', m'.Takes s s' ∧ m.slot? s' = some (.object c)

structure Stays (role : String → Role) (calls : Calls) (m m' : Machine) : Prop where
  separated : m'.Separated role calls
  advances : m.Advances m'
  steady : Steady calls m m'

def Fresh (calls : Calls) (n : Nat) (v : Value) (m : Machine) : Prop :=
  New n v m ∧ ∀ (s : Slot) (c : Nat), s.Counts calls → v = .object c → m.IsCell c →
    m.slot? s ≠ some (.object c)

variable {m m' m'' : Machine} {s t : Slot}

lemma Suits.advance (suits : m.Suits r x v) (adv : m.Advances m') : m'.Suits r x v := by
  cases r with
  | free => trivial
  | routine =>
    obtain ⟨a, f, same, found⟩ := suits
    exact ⟨a, f, same, adv.function found⟩
  | package =>
    obtain ⟨a, p, same, found⟩ := suits
    obtain ⟨p', found', -⟩ := adv.package found
    exact ⟨a, p', same, found'⟩
  | type | library => exact suits

lemma Suits.free_of_isReplaceable (suits : m.Suits r x v) (replaceable : IsReplaceable m v) :
    r = .free := by
  cases r with
  | free => rfl
  | routine | package =>
    obtain ⟨a, o, rfl, found⟩ := suits
    obtain ⟨b, same, content, cell⟩ | integer := replaceable
    · grind
    · cases integer
  | type =>
    obtain ⟨b, rfl, -⟩ | integer := replaceable
    · exact suits.elim
    · cases v <;> first | exact suits.elim | cases integer
  | library =>
    have named := Library.isNamed_of_exported? suits
    obtain ⟨b, rfl, -⟩ | integer := replaceable
    · exact named.elim
    · cases v <;> first | exact named.elim | cases integer

lemma Takes.name_eq (takes : m.Takes s t) : s.name = t.name := by
  cases takes <;> rfl

lemma Takes.counts (takes : m.Takes s t) (counts : s.Counts calls) : t.Counts calls := by
  cases takes with
  | same => exact counts
  | base x descends => trivial

namespace Steady

lemma refl : Steady calls m m := fun s _ _ _ _ bound => ⟨s, .same s, bound⟩

lemma trans (first : Steady calls m m') (second : Steady calls m' m'') (start : m.Advances m')
    (rest : m'.Advances m'') : Steady calls m m'' := by
  intro s c counts small cell bound
  have larger := start.size_le
  obtain ⟨s', takes, bound'⟩ := second s c counts (by omega) cell bound
  have cell' := (rest.isCell (by omega)).1 cell
  obtain ⟨s'', takes', bound''⟩ := first s' c (takes.counts counts) small cell' bound'
  exact ⟨s'', takes.trans (takes'.advance rest), bound''⟩

lemma of_same_slots (same : ∀ s, m'.slot? s = m.slot? s) : Steady calls m m' := by
  intro s c _ _ _ bound
  rw [same] at bound
  exact ⟨s, .same s, bound⟩

end Steady

namespace Separated

lemma of_same_slots (separated : m.Separated role calls) (adv : m.Advances m')
    (same : ∀ s, m'.slot? s = m.slot? s)
    (made : ∀ (a) f, m.store.size ≤ a → m'.store.get? a = some (.function f) →
      f.IsTame role) : m'.Separated role calls where
  suits s v bound := by
    rw [same] at bound
    exact (separated.suits s v bound).advance adv
  tame a f found := by
    by_cases small : a < m.store.size
    · exact separated.tame a f (adv.function_old small found)
    · exact made a f (by omega) found
  frames call mem := by
    obtain ⟨f, found⟩ := separated.frames call mem
    obtain ⟨f', found', -⟩ := adv.frame found
    exact ⟨f', found'⟩
  order := separated.order
  there s c counts bound := by
    rw [same] at bound
    exact Nat.lt_of_lt_of_le (separated.there s c counts bound) adv.size_le
  young a x v counts bound := by
    rw [same] at bound
    obtain ⟨own, younger⟩ := separated.young a x v counts bound
    refine ⟨own, fun c equal cell => younger c equal ?_⟩
    exact (adv.isCell (separated.there _ c counts (equal ▸ bound))).1 cell
  apart s t c counts counts' cell bound bound' := by
    rw [same] at bound bound'
    have old := (adv.isCell (separated.there s c counts bound)).1 cell
    exact (separated.apart s t c counts counts' old bound bound').advance adv

structure Fits (role : String → Role) (calls : Calls) (s : Slot) (v : Value) (m : Machine) :
    Prop where
  has : m.Has s
  suits : m.Suits (role s.name) s.name v
  there : ∀ c : Nat, s.Counts calls → v = .object c → c < m.store.size
  young : ∀ (a : Nat) x, s = .frame a x → s.Counts calls →
    (∀ r, v ≠ .routine r) ∧ ∀ c : Nat, v = .object c → m.IsCell c → a < c
  apart : ∀ (t : Slot) (c : Nat), s.Counts calls → t.Counts calls → v = .object c → m.IsCell c →
    m.slot? t = some (.object c) → m.SameVariable s t

lemma bind (apart : m.Separated role calls) (fits : Fits role calls s v m) :
    (m.bound s v).Separated role calls := by
  have adv := Advances.bound m s v
  have self := slot?_bound_self (v := v) fits.has
  have other {t} (differ) : (m.bound s v).slot? t = m.slot? t := slot?_bound_of_ne fits.has differ
  have size := size_bound m s v
  refine ⟨?_, ?_, ?_, apart.order, ?_, ?_, ?_⟩
  · intro t w bound
    by_cases here : t = s
    · subst here
      rw [self] at bound
      cases bound
      exact fits.suits.advance adv
    · rw [other here] at bound
      exact (apart.suits t w bound).advance adv
  · intro a f found
    have small := get?_lt found
    exact apart.tame a f (adv.function_old (size ▸ small) found)
  · intro call mem
    obtain ⟨f, found⟩ := apart.frames call mem
    obtain ⟨f', found', -⟩ := adv.frame found
    exact ⟨f', found'⟩
  · intro t c counts bound
    rw [size]
    by_cases here : t = s
    · subst here
      rw [self] at bound
      cases bound
      exact fits.there c counts rfl
    · exact apart.there t c counts (other here ▸ bound)
  · intro a x w counts bound
    simp only [isCell_bound]
    by_cases here : .frame a x = s
    · subst here
      rw [self] at bound
      cases bound
      exact fits.young a x rfl counts
    · exact apart.young a x w counts (other here ▸ bound)
  · intro t t' c counts counts' cell bound bound'
    rw [isCell_bound] at cell
    by_cases here : t = s
    · subst here
      rw [self] at bound
      by_cases here' : t' = t
      · subst here'
        exact .refl t'
      · cases bound
        rw [other here'] at bound'
        exact (fits.apart t' c counts counts' rfl cell bound').advance adv
    · rw [other here] at bound
      by_cases here' : t' = s
      · subst here'
        rw [self] at bound'
        cases bound'
        exact (fits.apart t c counts' counts rfl cell bound).symm.advance adv
      · rw [other here'] at bound'
        exact (apart.apart t t' c counts counts' cell bound bound').advance adv

end Separated

namespace Fresh

lemma of_isBare (bare : IsBare v) : Fresh calls n v m := by
  refine ⟨.of_isBare bare, ?_⟩
  rintro s c - rfl
  exact bare.elim

lemma of_new (apart : m.Separated role calls) (same : ∀ s, m'.slot? s = m.slot? s)
    (new : New m.store.size v m') : Fresh calls m.store.size v m' := by
  refine ⟨new, fun s c counts equal cell bound => ?_⟩
  rw [same] at bound
  have small := apart.there s c counts bound
  have large := (new.2 c equal).2 cell
  omega

lemma stay (fresh : Fresh calls n v m) (stays : Stays role calls m m') : Fresh calls n v m' := by
  have old {c} (equal) (cell) : m.IsCell c := (stays.advances.isCell (fresh.1.2 c equal).1).1 cell
  refine ⟨⟨fresh.1.1, fun c equal => ?_⟩, fun s c counts equal cell bound => ?_⟩
  · obtain ⟨small, young⟩ := fresh.1.2 c equal
    exact ⟨Nat.lt_of_lt_of_le small stays.advances.size_le, fun cell => young (old equal cell)⟩
  · obtain ⟨s', takes, bound'⟩ := stays.steady s c counts (fresh.1.2 c equal).1 cell bound
    exact fresh.2 s' c (takes.counts counts) equal (old equal cell) bound'

lemma weaken (fresh : Fresh calls n v m) (le : n' ≤ n)
    (fewer : ∀ s : Slot, s.Counts calls' → s.Counts calls) : Fresh calls' n' v m := by
  refine ⟨⟨fresh.1.1, fun c equal => ?_⟩, fun s c counts => fresh.2 s c (fewer s counts)⟩
  obtain ⟨small, young⟩ := fresh.1.2 c equal
  exact ⟨small, fun cell => Nat.le_trans le (young cell)⟩

end Fresh

namespace Stays

lemma refl (apart : m.Separated role calls) : Stays role calls m m := ⟨apart, .refl m, .refl⟩

lemma done {Q : α → Machine → Prop} (stays : Stays role calls m m') (due : Q v m') :
    Ends (Stays role calls) (pure v) m' Q := .pure (refl stays.separated) due

lemma trans (first : Stays role calls m m') (second : Stays role calls m' m'') :
    Stays role calls m m'' where
  separated := second.separated
  advances := first.advances.trans second.advances
  steady := first.steady.trans second.steady first.advances second.advances

lemma follow (separated : m.Separated role calls) (follows : m.Follows m') :
    Stays role calls m m' where
  separated := separated.of_same_slots follows.advances follows.slot? fun a _ large found =>
    absurd trivial (follows.new a _ large found)
  advances := follows.advances
  steady := .of_same_slots follows.slot?

lemma tracks : Table.Tracks Machine.Follows (Stays role calls) where
  here stays := .refl stays.separated
  trans := trans
  follow start follows := follow start.separated follows

lemma note (start : Stays role calls m m) (store : m'.store = m.store)
    (globals : m'.globals = m.globals) (_ : m'.database = m.database) : Stays role calls m m' :=
  follow start.separated (.of_same globals store)

lemma push (separated : m.Separated role calls) (same : ∀ s, (m.push o).slot? s = m.slot? s)
    (tame : ∀ f, o = .function f → f.IsTame role) :
    Stays role calls m (m.push o) where
  separated := separated.of_same_slots (.push m o) same fun a f large found => by
    obtain old | ⟨-, is⟩ := get?_push_eq_some found
    · exact absurd (get?_lt old) (Nat.not_lt.2 large)
    · exact tame f is.symm
  advances := .push m o
  steady := .of_same_slots same

lemma bind (stays : Stays role calls m m') (fits : Separated.Fits role calls s v m')
    (old : ∀ c : Nat, s.Counts calls → v = .object c → m'.IsCell c → c < m.store.size →
      ∃ s', m'.Takes s s' ∧ m.slot? s' = some (.object c)) :
    Stays role calls m (m'.bound s v) where
  separated := stays.separated.bind fits
  advances := stays.advances.trans (.bound m' s v)
  steady := by
    intro t c counts small cell bound
    rw [isCell_bound] at cell
    by_cases here : t = s
    · subst here
      rw [slot?_bound_self fits.has] at bound
      obtain ⟨s', takes, bound'⟩ := old c counts (Option.some.inj bound) cell small
      exact ⟨s', takes.advance (.bound m' t v), bound'⟩
    · rw [slot?_bound_of_ne fits.has here] at bound
      obtain ⟨s', takes, bound'⟩ := stays.steady t c counts small cell bound
      exact ⟨s', takes.advance (.bound m' s v), bound'⟩

lemma bind_fresh (stays : Stays role calls m m') (has : m.Has s)
    (suits : m'.Suits (role s.name) s.name v) (fresh : Fresh calls m.store.size v m') :
    Stays role calls m (m'.bound s v) := by
  have young {c} (equal) (cell) : m.store.size ≤ c := (fresh.1.2 c equal).2 cell
  refine stays.bind ⟨stays.advances.has has, suits, fun c _ equal => (fresh.1.2 c equal).1, ?_, ?_⟩
    ?_
  · rintro a x rfl -
    obtain ⟨f, found⟩ := has
    have small := get?_lt found
    exact ⟨fresh.1.1, fun c equal cell => Nat.lt_of_lt_of_le small (young equal cell)⟩
  · intro t c _ counts equal cell bound
    exact absurd bound (fresh.2 t c counts equal cell)
  · grind

lemma bind_solid (apart : m.Separated role calls) (has : m.Has s)
    (suits : m.Suits (role s.name) s.name v) (own : ∀ a x, s = .frame a x → ∀ r, v ≠ .routine r)
    (there : ∀ c, v = .object c → c < m.store.size)
    (solid : ∀ c, v = .object c → ¬ m.IsCell c) : Stays role calls m (m.bound s v) := by
  refine (refl apart).bind ⟨has, suits, fun c _ => there c, ?_, ?_⟩ ?_
  · grind
  · exact fun _ c _ _ equal cell => absurd cell (solid c equal)
  · exact fun c _ equal cell => absurd cell (solid c equal)

lemma update (first : Stays role calls m m1) (rest : Stays role calls m1 m2) (has : m1.Has s)
    (takes : m1.Takes s t) (known : m1.slot? t = some old) (leaves : Leaves m2 old w) :
    Stays role calls m (m2.bound s w) := by
  have suits := (first.separated.suits t old known).advance rest.advances
  rw [← takes.name_eq] at suits
  obtain ⟨rfl, a, rfl⟩ | ⟨replaceable, own, solid⟩ := leaves
  · -- the variable keeps what it had
    have small (counts) : a < m1.store.size := first.separated.there t a (takes.counts counts) known
    refine (first.trans rest).bind ⟨rest.advances.has has, suits, ?_, ?_, ?_⟩ ?_
    · rintro _ counts ⟨⟩
      exact Nat.lt_of_lt_of_le (small counts) rest.advances.size_le
    · rintro b x rfl counts
      cases takes
      refine ⟨nofun, ?_⟩
      rintro _ ⟨⟩ cell
      exact (first.separated.young b x _ counts known).2 a rfl
        ((rest.advances.isCell (small counts)).1 cell)
    · rintro t' _ counts counts' ⟨⟩ cell known'
      obtain ⟨t'', takes', known''⟩ := rest.steady t' a counts' (small counts) cell known'
      have cell' := (rest.advances.isCell (small counts)).1 cell
      have same := first.separated.apart t t'' a (takes.counts counts) (takes'.counts counts')
        cell' known known''
      have here := (SameVariable.take takes same).advance rest.advances
      exact (SameVariable.take takes' here.symm).symm
    · rintro _ counts ⟨⟩ cell old
      have cell' := (rest.advances.isCell (small counts)).1 cell
      obtain ⟨s', takes', known'⟩ := first.steady t a (takes.counts counts) old cell' known
      exact ⟨s', (takes.trans takes').advance rest.advances, known'⟩
  · -- something that is no cell takes its place
    have free : role s.name = .free := suits.free_of_isReplaceable replaceable
    refine (first.trans rest).trans (bind_solid rest.separated (rest.advances.has has) ?_
      (fun _ _ _ => own) (fun c same => (solid c same).1) fun c same => (solid c same).2)
    rw [free]
    trivial

lemma importAll (known : ∀ x v, Library.exported? x = some v → role x = .library)
    : ∀ {m : Machine}, m.Separated role calls →
      (∀ e ∈ names, Library.exported? e.1 = some e.2 ∧ Library.IsNamed e.2) →
        Stays role calls m { m with globals := m.globals.setAll names } := by
  induction names with
  | nil => exact fun apart _ => refl apart
  | cons e names ih =>
    intro m apart exported
    obtain ⟨⟨here, named⟩, later⟩ := forall_mem_cons.1 exported
    have other (c) : e.2 ≠ .object c := fun same => by
      rw [same] at named
      exact named
    have first : Stays role calls m (m.bound (.global e.1) e.2) := by
      refine bind_solid apart trivial ?_ nofun (fun c same => absurd same (other c))
        fun c same => absurd same (other c)
      change m.Suits (role e.1) e.1 e.2
      rw [known _ _ here]
      exact here
    exact first.trans (ih first.separated later)

end Stays

lemma slot?_push_eq (frame : ∀ f, o = .frame f → f.values = [])
    (pkg : ∀ p, o = .package p → p.members = []) (s : Slot) :
    (m.push o).slot? s = m.slot? s := by
  refine Option.ext fun v => ⟨fun known => ?_, slot?_kept rfl fun _ => get?_pushed⟩
  cases s with
  | global x => exact known
  | frame a x =>
    obtain ⟨f, found, bound⟩ := slot?_frame_eq_some.1 known
    obtain old | ⟨-, same⟩ := get?_push_eq_some found
    · exact slot?_frame_eq_some.2 ⟨f, old, bound⟩
    · rw [frame f same.symm] at bound
      cases bound
  | package a x =>
    obtain ⟨p, found, bound⟩ := slot?_package_eq_some.1 known
    obtain old | ⟨-, same⟩ := get?_push_eq_some found
    · exact slot?_package_eq_some.2 ⟨p, old, bound⟩
    · rw [pkg p same.symm] at bound
      cases bound

lemma slot?_entered (known : (m.entered f given).slot? s = some v) :
    m.slot? s = some v ∨ ∃ x ∈ f.parameters, s = .frame m.store.size x := by
  cases s with
  | global x => exact .inl known
  | frame a x =>
    obtain ⟨g, found, bound⟩ := slot?_frame_eq_some.1 known
    obtain old | ⟨rfl, same⟩ := get?_push_eq_some found
    · exact .inl (slot?_frame_eq_some.2 ⟨g, old, bound⟩)
    · cases same
      obtain known | mem := Bindings.mem_of_get?_setAll bound
      · cases known
      · exact .inr ⟨x, (of_mem_zip mem).1, rfl⟩
  | package a x =>
    obtain ⟨p, found, bound⟩ := slot?_package_eq_some.1 known
    obtain old | ⟨-, same⟩ := get?_push_eq_some found
    · exact .inl (slot?_package_eq_some.2 ⟨p, old, bound⟩)
    · cases same

lemma counts_cons :
    s.Counts ((a, params) :: calls) ↔ (∃ x, s = .frame a x ∧ x ∉ params) ∨ s.Counts calls := by
  cases s with
  | global x | package b x => exact ⟨fun _ => .inr trivial, fun _ => trivial⟩
  | frame b x =>
    constructor
    · rintro ⟨others, mem, other⟩
      obtain here | earlier := mem_cons.1 mem
      · grind
      · exact .inr ⟨others, earlier, other⟩
    · rintro (⟨y, same, other⟩ | ⟨others, mem, other⟩)
      · cases same
        exact ⟨params, mem_cons_self, other⟩
      · exact ⟨others, mem_cons_of_mem _ mem, other⟩

namespace Separated

lemma lt_size_of_counts (apart : m.Separated role calls)
    (counts : (Slot.frame a x).Counts calls) : a < m.store.size := by
  obtain ⟨params, mem, -⟩ := counts
  obtain ⟨f, found⟩ := apart.frames _ mem
  exact get?_lt found

lemma slot?_entered (apart : m.Separated role calls)
    (counts : s.Counts ((m.store.size, f.parameters) :: calls))
    (known : (m.entered f given).slot? s = some v) :
    s.Counts calls ∧ m.slot? s = some v := by
  obtain ⟨x, rfl, other⟩ | counts := counts_cons.1 counts
  · obtain old | ⟨y, mem, same⟩ := Machine.slot?_entered known
    · obtain ⟨g, found, -⟩ := slot?_frame_eq_some.1 old
      exact absurd (get?_lt found) (Nat.lt_irrefl _)
    · grind
  · obtain old | ⟨y, mem, rfl⟩ := Machine.slot?_entered known
    · exact ⟨counts, old⟩
    · exact absurd (apart.lt_size_of_counts counts) (Nat.lt_irrefl _)

lemma enter (apart : m.Separated role calls) (tame : f.IsTame role) :
    (m.entered f given).Separated role ((m.store.size, f.parameters) :: calls) := by
  have adv : m.Advances (m.entered f given) := .push m _
  have cell {s} {c} (counts) (known : m.slot? s = some (.object c)) :
      (m.entered f given).IsCell c ↔ m.IsCell c :=
    adv.isCell (apart.there s c counts known)
  refine ⟨?_, ?_, ?_, ?_, ?_, ?_, ?_⟩
  · intro s v known
    obtain old | ⟨x, mem, rfl⟩ := Machine.slot?_entered known
    · exact (apart.suits s v old).advance adv
    · have free : role x = .free := of_decide_eq_true (all_eq_true.1 tame.1 x mem)
      change Suits _ (role x) x v
      rw [free]
      trivial
  · intro a g found
    obtain old | ⟨-, same⟩ := get?_push_eq_some found
    · exact apart.tame a g old
    · cases same
  · intro call mem
    obtain rfl | mem := mem_cons.1 mem
    · exact ⟨_, get?_push_size m _⟩
    · obtain ⟨g, found⟩ := apart.frames call mem
      exact ⟨g, get?_pushed found⟩
  · refine pairwise_cons.2 ⟨fun call mem => ?_, apart.order⟩
    obtain ⟨g, found⟩ := apart.frames call mem
    exact get?_lt found
  · intro s c counts known
    obtain ⟨counts, old⟩ := apart.slot?_entered counts known
    exact Nat.lt_of_lt_of_le (apart.there s c counts old) adv.size_le
  · intro a x v counts known
    obtain ⟨counts, old⟩ := apart.slot?_entered counts known
    obtain ⟨own, young⟩ := apart.young a x v counts old
    grind
  · intro s t c counts counts' isCell known known'
    obtain ⟨counts, old⟩ := apart.slot?_entered counts known
    obtain ⟨counts', old'⟩ := apart.slot?_entered counts' known'
    have same := apart.apart s t c counts counts' ((cell counts old).1 isCell) old old'
    exact same.advance adv

lemma leave (apart : m.Separated role (call :: calls)) : m.Separated role calls := by
  have more {s : Slot} (counts) : s.Counts (call :: calls) := counts_cons.2 (.inr counts)
  refine ⟨apart.suits, apart.tame, ?_, ?_, ?_, ?_, ?_⟩
  · exact fun call mem => apart.frames call (mem_cons_of_mem _ mem)
  · exact (pairwise_cons.1 apart.order).2
  · exact fun s c counts => apart.there s c (more counts)
  · exact fun a x v counts => apart.young a x v (more counts)
  · exact fun s t c counts counts' => apart.apart s t c (more counts) (more counts')

lemma stays_of_entered (separated : m.Separated role calls)
    (stays : Stays role ((m.store.size, f.parameters) :: calls) (m.entered f given) m') :
    Stays role calls m m' where
  separated := stays.separated.leave
  advances := (Advances.push m _).trans stays.advances
  steady := by
    intro s c counts small cell known
    have more : s.Counts ((m.store.size, f.parameters) :: calls) := counts_cons.2 (.inr counts)
    have larger : c < (m.entered f given).store.size := by
      rw [entered, size_push]
      omega
    obtain ⟨s', takes, known'⟩ := stays.steady s c more larger cell known
    exact ⟨s', takes, (separated.slot?_entered (takes.counts more) known').2⟩

end Separated

lemma Stays.leave (stays : Stays role (call :: calls) m m') : Stays role calls m m' where
  separated := stays.separated.leave
  advances := stays.advances
  steady s c counts := stays.steady s c (counts_cons.2 (.inr counts))

end Machine
end BlockScript
