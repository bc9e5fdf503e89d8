import BlockScript.Proofs.QueryTurns

/-!
The mocks that executions hold. An execution takes a mock for itself, and a cursor has its execution
for itself: from then on no other cursor can draw rows from the mock, and no other execution can
take it, whatever turns are taken on other cursors and mocks.
-/

namespace BlockScript

open Eval Machine

namespace Machine

variable {free : Nat → Prop} {m m' : Machine}

lemma get?_push_cases (found : (m.push o).store.get? b = some o') :
    o' = o ∨ m.store.get? b = some o' := (get?_push_eq_some found).symm.imp_left And.right

/-- What a turn leaves of cursors, executions and mocks: they have what they had before, unless a
cursor is given a new execution, an execution takes a mock that waits, or a mock is given data. -/
def Left (opened : Nat) (m m' : Machine) (a : Nat) : Object → Prop
  | .cursor c => ∀ e : Nat, c.execution = some e →
      (∃ d, m.store.get? a = some (.cursor d) ∧ d.execution = some e) ∨
        a = opened ∧ e = m.store.size ∧ e < m'.store.size
  | .mock w => ∀ rows, w.rows = some rows → ∀ row ∈ rows, m.IsData row ∨
      ∃ v had, m.store.get? a = some (.mock v) ∧ v.rows = some had ∧ row ∈ had
  | .execution x => ∀ k, x.mock = some k →
      (∃ y, m.store.get? a = some (.execution y) ∧ y.mock = some k) ∨
        ∃ before after s, m.database.mocks = before ++ (.text s, k) :: after ∧
          m'.database.mocks = before ++ after
  | _ => True

lemma Left.of_was (was : o.IsOfQuery → m.store.get? a = some o) : Left opened m m' a o := by
  cases o with
  | cursor c => exact fun e is => .inl ⟨c, was trivial, is⟩
  | mock w => exact fun rows has row mem => .inr ⟨w, rows, was trivial, has, mem⟩
  | execution x => exact fun k has => .inl ⟨x, was trivial, has⟩
  | _ => trivial

lemma Left.of_idle (idle : o.IsIdle) : Left opened m m' a o := by
  cases o with
  | cursor | mock | execution => exact fun _ is => by cases is.symm.trans idle
  | _ => trivial

lemma Left.put (new : Left opened m (m.put b o) b o) (found : (m.put b o).store.get? a = some o') :
    Left opened m (m.put b o) a o' := by
  rcases get?_put_cases found with ⟨rfl, rfl⟩ | old
  · exact new
  · exact .of_was fun _ => old

namespace Turn

lemma left (turn : Turn on free m m') :
    ∃ opened, ∀ a o, m'.store.get? a = some o → Left opened m m' a o := by
  cases turn with
  | aside keeps => exact ⟨0, fun a o found => .of_was fun is => keeps.was found is⟩
  | make idle =>
    refine ⟨0, fun a o found => ?_⟩
    rcases get?_push_cases found with rfl | old
    · exact .of_idle idle
    · exact .of_was fun _ => old
  | @attach b c x _ _ empty =>
    refine ⟨b, fun a o found => ?_⟩
    rcases get?_put_cases found with ⟨rfl, rfl⟩ | found
    · rintro e ⟨⟩
      rw [size_put, size_push]
      exact .inr ⟨rfl, rfl, Nat.lt_succ_self _⟩
    · rcases get?_push_cases found with rfl | old
      · exact .of_idle empty
      · exact .of_was fun _ => old
  | alter _ cursor closed =>
    refine ⟨0, fun a o => Left.put ?_⟩
    rcases closed with same | none
    · exact fun e is => .inl ⟨_, cursor, same.symm.trans is⟩
    · exact .of_idle none
  | rebind => exact ⟨0, fun a o => Left.put (.of_idle rfl)⟩
  | drop => exact ⟨0, fun a o found => .of_was fun _ => found⟩
  | take waits mock same _ _ taken =>
    refine ⟨0, fun a o found => ?_⟩
    rcases get?_put_cases found with ⟨rfl, -⟩ | found
    · intro k has
      cases taken.symm.trans has
      exact .inr ⟨_, _, _, waits, rfl⟩
    · rcases get?_put_cases found with ⟨rfl, rfl⟩ | old
      · exact fun rows has row mem => .inr ⟨_, rows, mock, same.symm.trans has, mem⟩
      · exact .of_was fun _ => old
  | draw _ _ _ _ _ mock had =>
    refine ⟨0, fun a o => Left.put ?_⟩
    rintro rows ⟨⟩ row mem
    exact .inr ⟨_, _, mock, had, mem_cons_of_mem _ mem⟩
  | change _ mock data =>
    refine ⟨0, fun a o => Left.put fun rows has row mem => ?_⟩
    rcases data rows has with had | data
    · exact .inr ⟨_, rows, mock, had, mem⟩
    · exact .inl (data row mem)

variable (turn : Turn on free m m')
include turn

lemma mocks : m'.database.mocks.Sublist m.database.mocks := by
  cases turn with
  | aside keeps => exact keeps.mocks ▸ .refl _
  | drop waits | take waits => exact waits ▸ List.Sublist.append_left (List.sublist_cons_self ..) _
  | _ => exact .refl _

lemma cursor (isOff : ¬ on a) (found : m.store.get? a = some (.cursor c)) :
    m'.store.get? a = some (.cursor c) :=
  turn.kept found isOff fun keeps => keeps.kept found trivial

lemma execution (found : m.store.get? e = some (.execution x)) (has : x.mock = some k) :
    m'.store.get? e = some (.execution x) :=
  turn.kept found (fun empty => Option.some_ne_none k (has.symm.trans empty))
    fun keeps => keeps.kept found trivial

lemma mock (isOff : ¬ on k) (unlisted : ∀ s, (.text s, k) ∉ m.database.mocks)
    (undrawn : ∀ a c e x, on a → m.store.get? a = some (.cursor c) → c.execution = some e →
      m.store.get? e = some (.execution x) → x.mock ≠ some k)
    (found : m.store.get? k = some (.mock w)) : m'.store.get? k = some (.mock w) := by
  refine turn.kept found ?_ fun keeps => keeps.kept found trivial
  rintro (isOn | ⟨s, listed⟩ | ⟨a, c, e, x, isOn, cursor, attached, execution, taken⟩)
  · exact isOff isOn
  · exact unlisted s listed
  · exact undrawn a c e x isOn cursor attached execution taken

end Turn

lemma Turns.execution (turns : Turns on free m m') (found : m.store.get? e = some (.execution x))
    (has : x.mock = some k) : m'.store.get? e = some (.execution x) := by
  induction turns with
  | refl => exact found
  | tail _ turn ih => exact turn.execution ih has

/-- No two cursors share an execution, and the rows of mocks are data. -/
structure Orderly (m : Machine) : Prop where
  own {a b e : Nat} {c d : Cursor} : m.store.get? a = some (.cursor c) → c.execution = some e →
    m.store.get? b = some (.cursor d) → d.execution = some e → a = b
  made {a e : Nat} {c : Cursor} : m.store.get? a = some (.cursor c) → c.execution = some e →
    e < m.store.size
  data {k : Nat} {w : Mock} {rows : List Value} {row : Value} :
    m.store.get? k = some (.mock w) → w.rows = some rows → row ∈ rows → m.IsData row

lemma Orderly.turn (orderly : m.Orderly) (turn : Turn on free m m') : m'.Orderly := by
  obtain ⟨opened, left⟩ := turn.left
  have grown := turn.follows.size_le
  exact {
    own := by
      intro a b e c d found is found' is'
      rcases left a _ found e is with ⟨c', old, is⟩ | ⟨here, new, -⟩
      · rcases left b _ found' e is' with ⟨d', old', is'⟩ | ⟨-, new, -⟩
        · exact orderly.own old is old' is'
        · have small := orderly.made old is
          omega
      · rcases left b _ found' e is' with ⟨d', old', is'⟩ | ⟨here', -, -⟩
        · have small := orderly.made old' is'
          omega
        · exact here.trans here'.symm
    made := by
      intro a e c found is
      rcases left a _ found e is with ⟨c', old, is⟩ | ⟨-, -, small⟩
      · have small := orderly.made old is
        omega
      · exact small
    data := by
      intro k w rows row found has mem
      rcases left k _ found rows has row mem with data | ⟨v, had, old, has, mem⟩
      · exact data.keep turn.collections
      · exact (orderly.data old has mem).keep turn.collections }

lemma Orderly.turns (orderly : m.Orderly) (turns : Turns on free m m') : m'.Orderly := by
  induction turns with
  | refl => exact orderly
  | tail _ turn ih => exact ih.turn turn

lemma Orderly.aside (orderly : m.Orderly) (keeps : m.KeepsQueries free m') : m'.Orderly :=
  orderly.turn (Turn.aside keeps : Turn (fun _ => False) free m m')

/-- The mocks that wait under texts are different ones, and no execution has taken one of them. -/
structure Queued (m : Machine) : Prop where
  apart : m.database.mocks.Pairwise fun w v => ∀ s t, w.1 = .text s → v.1 = .text t →
    s ≠ t ∧ w.2 ≠ v.2
  made {s : String} {k : Nat} : (.text s, k) ∈ m.database.mocks → k < m.store.size
  free {e k : Nat} {x : Execution} : m.store.get? e = some (.execution x) → x.mock = some k →
    k < m.store.size ∧ ∀ s, (.text s, k) ∉ m.database.mocks

lemma not_mem_of_apart {after : List (Value × Address)}
    (apart : (before ++ (.text s, k) :: after).Pairwise fun w v => ∀ s t, w.1 = .text s →
      v.1 = .text t → s ≠ t ∧ w.2 ≠ v.2) (t : String) : (.text t, k) ∉ before ++ after := by
  rw [pairwise_append, pairwise_cons] at apart
  intro mem
  rcases mem_append.1 mem with mem | mem
  · exact (apart.2.2 _ mem _ mem_cons_self t s rfl rfl).2 rfl
  · exact (apart.2.1.1 _ mem s t rfl rfl).2 rfl

lemma Queued.turn (queued : m.Queued) (turn : Turn on free m m') : m'.Queued := by
  have grown := turn.follows.size_le
  have fewer := turn.mocks
  exact {
    apart := queued.apart.sublist fewer
    made := fun mem => Nat.lt_of_lt_of_le (queued.made (fewer.subset mem)) grown
    free := by
      intro e k x found has
      obtain ⟨_, left⟩ := turn.left
      rcases left e _ found k has with ⟨y, old, has⟩ | ⟨before, after, s, waited, left⟩
      · obtain ⟨small, unlisted⟩ := queued.free old has
        exact ⟨by omega, fun s mem => unlisted s (fewer.subset mem)⟩
      · have mem : (.text s, k) ∈ m.database.mocks := by
          rw [waited]
          exact mem_append_right _ mem_cons_self
        refine ⟨Nat.lt_of_lt_of_le (queued.made mem) grown, ?_⟩
        rw [left]
        exact not_mem_of_apart (waited ▸ queued.apart) }

lemma Queued.turns (queued : m.Queued) (turns : Turns on free m m') : m'.Queued := by
  induction turns with
  | refl => exact queued
  | tail _ turn ih => exact ih.turn turn

lemma Queued.aside (queued : m.Queued) (keeps : m.KeepsQueries free m') : m'.Queued :=
  queued.turn (Turn.aside keeps : Turn (fun _ => False) free m m')

def IsRow (m : Machine) (row : Value) (items : List Value) : Prop :=
  ∃ r, row = .object r ∧
    (m.store.get? r = some (.list items) ∨ m.store.get? r = some (.tuple items))

def Offers (m : Machine) (k : Address) (rows : List (List Value)) : Prop :=
  ∃ w had, m.store.get? k = some (.mock w) ∧ w.rows = some had ∧ List.Forall₂ m.IsRow had rows

def Draws (m : Machine) (a k : Address) : Prop :=
  ∃ c e x, m.store.get? a = some (.cursor c) ∧ c.execution = some e ∧
    m.store.get? e = some (.execution x) ∧ x.mock = some k

lemma IsRow.data (isRow : m.IsRow row items) (data : m.IsData row) : ∀ v ∈ items, m.IsData v := by
  obtain ⟨r, rfl, found⟩ := isRow
  cases data with
  | list found' parts | tuple found' parts => grind
  | dict found' => rcases found with found | found <;> cases found.symm.trans found'

lemma IsRow.keep (isRow : m.IsRow row items) (kept : m.KeepsCollections m') :
    m'.IsRow row items := by
  obtain ⟨r, same, found | found⟩ := isRow
  · exact ⟨r, same, .inl (kept _ _ trivial found)⟩
  · exact ⟨r, same, .inr (kept _ _ trivial found)⟩

/-- A mock is the one of a cursor alone, and has rows for it. -/
structure Supplies (m : Machine) (a k : Address) (found : Option Bool) (rows : List (List Value)) :
    Prop where
  cursor : ∃ c e x, m.store.get? a = some (.cursor c) ∧ c.execution = some e ∧ c.found = found ∧
    m.store.get? e = some (.execution x) ∧ x.mock = some k ∧
    ∀ b y, m.store.get? b = some (.execution y) → y.mock = some k → b = e
  offers : m.Offers k rows
  unlisted : ∀ s, (.text s, k) ∉ m.database.mocks

variable {found : Option Bool} {rows : List (List Value)}

lemma Supplies.turn (supplies : m.Supplies a k found rows) (orderly : m.Orderly)
    (turn : Turn on free m m') (offCursor : ¬ on a) (offMock : ¬ on k) :
    m'.Supplies a k found rows := by
  obtain ⟨c, e, x, cursor, attached, isFound, execution, taken, sole⟩ := supplies.cursor
  obtain ⟨w, had, mock, has, each⟩ := supplies.offers
  have undrawn (b d e' y) (isOn : on b)
      (other : m.store.get? b = some (.cursor d)) (its : d.execution = some e')
      (there : m.store.get? e' = some (.execution y)) : y.mock ≠ some k := by
    intro same
    obtain rfl := sole e' y there same
    obtain rfl := orderly.own cursor attached other its
    exact offCursor isOn
  exact {
    cursor := by
      refine ⟨c, e, x, turn.cursor offCursor cursor, attached, isFound,
        turn.execution execution taken, taken, fun b y there has => ?_⟩
      obtain ⟨_, left⟩ := turn.left
      rcases left b _ there k has with ⟨y', old, has⟩ | ⟨before, after, s, waited, -⟩
      · exact sole b y' old has
      · refine absurd ?_ (supplies.unlisted s)
        grind
    offers := by
      refine ⟨w, had, turn.mock offMock supplies.unlisted undrawn mock, has, ?_⟩
      exact each.imp fun _ _ isRow => isRow.keep turn.collections
    unlisted := fun s mem => supplies.unlisted s (turn.mocks.subset mem) }

lemma Supplies.turns (supplies : m.Supplies a k found rows) (orderly : m.Orderly)
    (turns : Turns on free m m') (offCursor : ¬ on a) (offMock : ¬ on k) :
    m'.Supplies a k found rows := by
  have both : m'.Orderly ∧ m'.Supplies a k found rows := by
    induction turns with
    | refl => exact ⟨orderly, supplies⟩
    | tail _ turn ih => exact ⟨ih.1.turn turn, ih.2.turn ih.1 turn offCursor offMock⟩
  exact both.2

lemma Supplies.aside (supplies : m.Supplies a k found rows) (keeps : m.KeepsQueries free m') :
    m'.Supplies a k found rows := by
  obtain ⟨c, e, x, cursor, attached, isFound, execution, taken, sole⟩ := supplies.cursor
  obtain ⟨w, had, mock, has, each⟩ := supplies.offers
  exact {
    cursor := ⟨c, e, x, keeps.kept cursor trivial, attached, isFound,
      keeps.kept execution trivial, taken, fun b y there => sole b y (keeps.was there trivial)⟩
    offers := ⟨w, had, keeps.kept mock trivial, has,
      each.imp fun _ _ isRow => isRow.keep keeps.collections⟩
    unlisted := by rw [keeps.mocks]; exact supplies.unlisted }

end Machine

namespace Query

variable {free : Nat → Prop} {mocks : List (Value × Address)}

lemma Enters.cases (enters : Enters pat k mocks mocks') (mem : w ∈ mocks') :
    w ∈ mocks ∨ w.2 = k := by
  cases enters with
  | last => grind
  | instead each =>
    obtain ⟨v, old, -, same | new⟩ := exists_of_mem_right each mem
    · exact .inl (same ▸ old)
    · exact .inr new.1

lemma Enters.apart (enters : Enters (.text s) k mocks mocks')
    (new : ∀ w ∈ mocks, ∀ t, w.1 = .text t → w.2 ≠ k)
    (apart : mocks.Pairwise fun w v => ∀ s t, w.1 = .text s → v.1 = .text t → s ≠ t ∧ w.2 ≠ v.2) :
    mocks'.Pairwise fun w v => ∀ s t, w.1 = .text s → v.1 = .text t → s ≠ t ∧ w.2 ≠ v.2 := by
  cases enters with
  | last unknown => grind
  | instead each => induction each with
    | nil => exact .nil
    | @cons w w' mocks mocks' first rest ih =>
      rw [pairwise_cons] at apart ⊢
      refine ⟨fun v' mem t u left right => ?_,
        ih (fun v mem => new v (mem_cons_of_mem _ mem)) apart.2⟩
      obtain ⟨v, old, sameKey, other⟩ := exists_of_mem_right rest mem
      rw [first.1] at left
      rw [sameKey] at right
      have both := apart.1 v old t u left right
      have wOld := new w mem_cons_self t left
      have vOld := new v (mem_cons_of_mem _ old) u right
      refine ⟨both.1, ?_⟩
      rcases first.2 with rfl | ⟨moved, equal⟩
      · grind
      · grind

lemma Registers.orderly (regs : Registers free pat m m') (orderly : m.Orderly) : m'.Orderly := by
  obtain ⟨m1, mocks, keeps, rfl, -⟩ := regs
  have made : Turn (fun _ => False) free m (m.push (.mock {})) := .make rfl
  have kept : Turn (fun _ => False) free (m.push (.mock {})) m1 := .aside keeps
  have before := (orderly.turn made).turn kept
  exact {
    own := before.own
    made := before.made
    data := fun found has mem => (before.data found has mem).keep fun _ _ _ => id }

lemma Registers.queued (regs : Registers free (.text s) m m') (queued : m.Queued) : m'.Queued := by
  obtain ⟨m1, mocks, keeps, rfl, enters⟩ := regs
  have grown := keeps.follows.size_le
  rw [size_push] at grown
  have old {t} {k} (mem : (.text t, k) ∈ m.database.mocks) : k < m.store.size := queued.made mem
  have cases {t} {k} (mem : (.text t, k) ∈ mocks) :
      (.text t, k) ∈ m.database.mocks ∨ k = m.store.size := enters.cases mem
  exact {
    apart := by
      refine enters.apart ?_ queued.apart
      rintro ⟨p, k⟩ mem t rfl
      exact Nat.ne_of_lt (old mem)
    made := by
      intro t k mem
      rcases cases mem with mem | rfl
      · exact Nat.lt_trans (old mem) grown
      · exact grown
    free := by
      intro e k x found has
      have was : m.store.get? e = some (.execution x) := by
        rcases get?_push_cases (keeps.was found trivial) with ⟨⟨⟩⟩ | was
        exact was
      obtain ⟨small, unlisted⟩ := queued.free was has
      refine ⟨Nat.lt_trans small grown, fun t mem => ?_⟩
      rcases cases mem with mem | rfl
      · exact unlisted t mem
      · exact Nat.lt_irrefl _ small }

lemma Registers.supplies {found : Option Bool} {rows : List (List Value)}
    (regs : Registers free pat m m') (orderly : m.Orderly)
    (supplies : m.Supplies a k found rows) : m'.Supplies a k found rows := by
  obtain ⟨m1, mocks, keeps, rfl, enters⟩ := regs
  have made : Turn (fun _ => False) free m (m.push (.mock {})) := .make rfl
  have before := (supplies.turn orderly made id id).aside keeps
  obtain ⟨w, had, mock, -⟩ := supplies.offers
  obtain ⟨w', had', mock', has', each⟩ := before.offers
  exact {
    cursor := before.cursor
    offers := ⟨w', had', mock', has', each.imp fun _ _ isRow => isRow.keep fun _ _ _ => id⟩
    unlisted := fun s mem => by
      rcases enters.cases mem with mem | same
      · exact supplies.unlisted s mem
      · exact Nat.ne_of_lt (get?_lt mock) same }

end Query
end BlockScript
