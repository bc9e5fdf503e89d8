import BlockScript.Proofs.Cells
import BlockScript.Proofs.DatabaseMoves

/-!
What operations on values can do to a machine. They make new objects and change what objects hold,
but an object stays what it is: a cell stays a cell, and the frames, routines and packages of the
program stay as they are.
-/

namespace BlockScript

open Object

lemma exists_of_mem_right (all : List.Forall₂ R xs ys) (mem : y ∈ ys) : ∃ x ∈ xs, R x y := by
  induction all with
  | nil => cases mem
  | @cons x _ xs ys first rest ih => grind

def Object.outline : Object → Object
  | .cell _ => .cell .none
  | .list _ => .list []
  | .tuple _ => .tuple []
  | .dict _ => .dict []
  | .table _ _ => .table [] .none
  | .record _ => .record []
  | .cursor _ => .cursor { query := .none, binds := .none, parameters := .none }
  | .execution _ => .execution {}
  | .mock _ => .mock {}
  | .member p _ => .member p []
  | .frame f => .frame f
  | .function f => .function f
  | .package p => .package p

def Object.IsOfProgram : Object → Prop
  | .frame _ | .function _ | .package _ => True
  | _ => False

def Object.IsOfQuery : Object → Prop
  | .cursor _ | .execution _ | .mock _ => True
  | _ => False

def Object.IsSpecial : Object → Prop
  | .frame _ | .function _ | .package _ | .cursor _ | .execution _ | .mock _ | .cell _ => True
  | _ => False

def Object.IsCell : Object → Prop
  | .cell _ => True
  | _ => False

def Machine.outline? (m : Machine) (a : Nat) : Option Object :=
  (m.store.get? a).map outline

def Machine.IsCell (m : Machine) (a : Nat) : Prop := ∃ v, m.store.get? a = some (.cell v)

def Machine.Contains (m : Machine) (v : Value) : Prop :=
  (∃ a : Nat, m.store.get? a = some (.cell v)) ∨
    ∀ c : Nat, v = .object c → c < m.store.size ∧ ¬ m.IsCell c

structure Machine.Follows (m m' : Machine) : Prop where
  globals : m'.globals = m.globals
  size_le : m.store.size ≤ m'.store.size
  old : ∀ a : Nat, a < m.store.size → m'.outline? a = m.outline? a
  new : ∀ (a : Nat) o, m.store.size ≤ a → m'.store.get? a = some o → ¬ o.IsOfProgram

namespace Object

variable {o : Object}

lemma outline_of_isOfProgram (program : o.IsOfProgram) : o.outline = o := by
  cases o <;> first | rfl | exact program.elim

lemma isOfProgram_outline (o : Object) : o.outline.IsOfProgram ↔ o.IsOfProgram := by
  cases o <;> rfl

lemma IsOfQuery.not_isOfProgram (query : o.IsOfQuery) : ¬ o.IsOfProgram := by
  cases o <;> first | exact id | exact query.elim

lemma not_isOfProgram (other : ¬ o.IsSpecial) : ¬ o.IsOfProgram := by
  cases o <;> first | exact id | exact other

lemma not_isOfQuery (other : ¬ o.IsSpecial) : ¬ o.IsOfQuery := by
  cases o <;> first | exact id | exact other

lemma outline_eq_cell (same : o.outline = (cell v).outline) : ∃ w, o = .cell w := by
  cases o <;> first | exact ⟨_, rfl⟩ | cases same

end Object

namespace Machine

variable {m m' : Machine} {a : Nat} {o : Object}

lemma get?_lt (found : m.store.get? a = some o) : a < m.store.size := Store.lt_size_of_get? found

lemma get?_push_of_lt (m : Machine) (o) (small : a < m.store.size) :
    (m.push o).store.get? a = m.store.get? a :=
  m.store.get?_push_of_lt o small

lemma get?_pushed (found : m.store.get? a = some o) : (m.push o').store.get? a = some o :=
  (get?_push_of_lt m o' (get?_lt found)).trans found

lemma size_push (m : Machine) (o) : (m.push o).store.size = m.store.size + 1 := by
  simp [push, Store.size, Store.push]

lemma size_put (m : Machine) (a : Nat) (o) : (m.put a o).store.size = m.store.size := by
  simp [put, Store.size, Store.set]

lemma get?_put_self (small : a < m.store.size) (o) : (m.put a o).store.get? a = some o :=
  m.store.get?_set_self o small

lemma get?_put_of_ne (other : a ≠ b) (m : Machine) (o) :
    (m.put a o).store.get? b = m.store.get? b :=
  m.store.get?_set_of_ne o other

lemma get?_push_put (small : a < m.store.size) (o o') :
    ((m.push o).put a o').store.get? a = some o' ∧
      ((m.push o).put a o').store.get? m.store.size = some o :=
  ⟨get?_put_self (by rw [size_push]; omega) _,
    by rw [get?_put_of_ne (Nat.ne_of_lt small), get?_push_size]⟩

lemma get?_push_eq_some {o' : Object} (found : (m.push o).store.get? a = some o') :
    m.store.get? a = some o' ∨ a = m.store.size ∧ o' = o := by
  by_cases small : a < m.store.size
  · rw [get?_push_of_lt m o small] at found
    exact .inl found
  · have bound := get?_lt found
    rw [size_push] at bound
    obtain rfl : a = m.store.size := by omega
    rw [get?_push_size] at found
    exact .inr ⟨rfl, (Option.some.inj found).symm⟩

lemma get?_put_cases (found : (m.put a o).store.get? b = some o') :
    o' = o ∧ a = b ∨ m.store.get? b = some o' := by
  by_cases here : a = b
  · subst here
    have small := get?_lt found
    rw [size_put] at small
    rw [get?_put_self small] at found
    exact .inl ⟨(Option.some.inj found).symm, rfl⟩
  · rw [get?_put_of_ne here] at found
    exact .inr found

namespace Follows

lemma of_same (globals : m'.globals = m.globals) (store : m'.store = m.store) : Follows m m' where
  globals := globals
  size_le := Nat.le_of_eq (by rw [store])
  old a _ := by rw [outline?, outline?, store]
  new a o large found := by
    rw [store] at found
    exact absurd (get?_lt found) (Nat.not_lt.2 large)

lemma refl (m) : Follows m m := of_same rfl rfl

lemma was (follows : Follows m m') (small : a < m.store.size) (found : m'.store.get? a = some o) :
    ∃ o', m.store.get? a = some o' ∧ o'.outline = o.outline := by
  have same := follows.old a small
  rw [outline?, found] at same
  exact map_eq_some_iff.1 same.symm

lemma trans (first : Follows m m') (second : Follows m' m'') : Follows m m'' where
  globals := second.globals.trans first.globals
  size_le := Nat.le_trans first.size_le second.size_le
  old a small := by
    have larger := first.size_le
    rw [second.old a (by omega), first.old a small]
  new a o large found program := by
    by_cases between : a < m'.store.size
    · -- an object of the program was there before the second part
      obtain ⟨o', found', outline⟩ := second.was between found
      refine first.new a o' large found' ?_
      rwa [← isOfProgram_outline, outline, isOfProgram_outline]
    · exact second.new a o (by omega) found program

lemma push (m) (other : ¬ o.IsOfProgram) : Follows m (m.push o) where
  globals := rfl
  size_le := by rw [size_push]; omega
  old a small := by rw [outline?, get?_push_of_lt m o small, outline?]
  new a o' large found := by
    obtain old | ⟨-, rfl⟩ := get?_push_eq_some found
    · exact absurd (get?_lt old) (Nat.not_lt.2 large)
    · exact other

lemma put {old : Object} (found : m.store.get? a = some old) (same : o.outline = old.outline) :
    Follows m (m.put a o) where
  globals := rfl
  size_le := Nat.le_of_eq (size_put m a o).symm
  old b small := by
    by_cases here : a = b
    · subst here
      rw [outline?, get?_put_self (get?_lt found), outline?, found, map_some, map_some, same]
    · rw [outline?, get?_put_of_ne here, outline?]
  new b o' large found' := by
    have bound := get?_lt found'
    rw [size_put] at bound
    omega

section

variable (follows : Follows m m')
include follows

lemma get? (found : m.store.get? a = some o) :
    ∃ o', m'.store.get? a = some o' ∧ o'.outline = o.outline := by
  have same := follows.old a (get?_lt found)
  rw [outline?, outline?, found] at same
  exact map_eq_some_iff.1 same

lemma get?_program (program : o.IsOfProgram) :
    m'.store.get? a = some o ↔ m.store.get? a = some o := by
  have unchanged {o'} (same : o'.outline = o.outline) : o' = o := by
    have program' : o'.IsOfProgram := by
      rwa [← isOfProgram_outline, same, isOfProgram_outline]
    rwa [outline_of_isOfProgram program', outline_of_isOfProgram program] at same
  constructor
  · intro found
    by_cases small : a < m.store.size
    · obtain ⟨o', found', outline⟩ := follows.was small found
      rw [found', unchanged outline]
    · exact absurd program (follows.new a o (by omega) found)
  · intro found
    obtain ⟨o', found', outline⟩ := follows.get? found
    rw [found', unchanged outline]

lemma isCell (small : a < m.store.size) : m'.IsCell a ↔ m.IsCell a := by
  constructor
  · rintro ⟨v, found⟩
    obtain ⟨o, found', outline⟩ := follows.was small found
    obtain ⟨w, rfl⟩ := outline_eq_cell outline
    exact ⟨w, found'⟩
  · rintro ⟨v, found⟩
    obtain ⟨o, found', outline⟩ := follows.get? found
    obtain ⟨w, rfl⟩ := outline_eq_cell outline
    exact ⟨w, found'⟩

end

end Follows
end Machine

def Object.HoldsValues : Object → Prop
  | .list _ | .dict _ | .table _ _ | .record _ => True
  | _ => False

def Object.IsAnswer : Object → Prop
  | .execution _ | .mock _ => True
  | _ => False

lemma Object.holdsValues_outline (o : Object) : o.outline.HoldsValues ↔ o.HoldsValues := by
  cases o <;> rfl

lemma Object.isCell_outline (o : Object) : o.outline.IsCell ↔ o.IsCell := by
  cases o <;> rfl

lemma Object.isAnswer_outline (o : Object) : o.outline.IsAnswer ↔ o.IsAnswer := by
  cases o <;> rfl

namespace Machine

/-! What operations on values can do is said once for many relations between machines: a relation
that allows the single changes which an operation is made of holds of the operation as a whole. -/

/-- Allows what asking for a value does: objects are made that hold values, and a record that is
asked for a field which it lacks gets an empty one. -/
class Asking (R : Machine → Machine → Prop) : Prop where
  follows {m m' : Machine} : R m m' → m.Follows m'
  refl (m : Machine) : R m m
  trans {m m' m'' : Machine} : R m m' → R m' m'' → R m m''
  push (m : Machine) {o : Object} : ¬ o.IsSpecial → R m (m.push o)
  pushCell {m : Machine} {v : Value} : m.Contains v → R m (m.push (.cell v))
  addField {m : Machine} {a : Nat} {fields : Bindings} {name : String} :
    m.store.get? a = some (.record fields) → fields.get? name = none →
      R m ((m.push (.cell .null)).put a (.record (fields.set name (.object m.store.size))))

lemma Asking.size_le [Asking R] (rel : R m m') :
    m.store.size ≤ m'.store.size := (follows rel).size_le

class Assigning (R : Machine → Machine → Prop) : Prop extends Asking R where
  putValues {m : Machine} {a : Nat} {old o : Object} :
    m.store.get? a = some old → old.HoldsValues → o.outline = old.outline → R m (m.put a o)
  putCell {m : Machine} {a : Nat} {v : Value} : m.IsCell a → m.Contains v → R m (m.put a (.cell v))

class Connecting (R : Machine → Machine → Prop) : Prop extends Asking R where
  rest (m : Machine) {d : Database} : m.database.Rests d → R m { m with database := d }
  move (m : Machine) {move : Database.Move} {d : Database} :
    Database.Moves move m.database d → R m { m with database := d }

class Querying (R : Machine → Machine → Prop) : Prop extends Connecting R where
  putAnswer {m : Machine} {a : Nat} {old o : Object} :
    m.store.get? a = some old → old.IsAnswer → o.outline = old.outline → R m (m.put a o)

class Working (R : Machine → Machine → Prop) : Prop extends Assigning R, Querying R where
  pushQuery (m : Machine) {o : Object} : o.IsOfQuery → R m (m.push o)
  put {m : Machine} {a : Nat} {old o : Object} :
    m.store.get? a = some old → ¬ old.IsCell → o.outline = old.outline → R m (m.put a o)
  note {m m' : Machine} :
    m'.store = m.store → m'.globals = m.globals → m'.database = m.database → R m m'

class Storing (R : Machine → Machine → Prop) : Prop extends Working R where
  store {m : Machine} {a : Nat} {v : Value} : m.IsCell a → R m (m.put a (.cell v))

instance : Storing Follows where
  follows := id
  refl := .refl
  trans := .trans
  push m _ other := .push m (not_isOfProgram other)
  pushCell _ := .push _ id
  pushQuery m _ query := .push m query.not_isOfProgram
  addField found _ := by
    refine (Follows.push _ id).trans (.put (get?_pushed found) rfl)
  putValues found _ same := .put found same
  putCell cell _ := .put cell.choose_spec rfl
  store cell := .put cell.choose_spec rfl
  putAnswer found _ same := .put found same
  rest _ _ _ := .of_same rfl rfl
  move _ _ _ _ := .of_same rfl rfl
  put found _ same := .put found same
  note store globals _ := .of_same globals store

end Machine

namespace Eval

open Machine

section

variable {α β : Type} {R : Machine → Machine → Prop} {m : Machine} {x : Eval α}
  {Q : α → Machine → Prop} {m' : Machine} {n : Nat} {v : Value}

/-- A computation on a machine ends in a machine that is related to it, whether it fails or not, and
with a result as promised if it does not. -/
def Ends (R : Machine → Machine → Prop) (x : Eval α) (m : Machine) (Q : α → Machine → Prop) :
    Prop :=
  match x m with
  | .ok v m' => R m m' ∧ Q v m'
  | .error _ m' => R m m'

namespace Ends

variable {v : α} {m' : Machine}

lemma of_ok (result : x m = .ok v m') (rel : R m m') (due : Q v m') : Ends R x m Q := by
  rw [Ends, result]
  exact ⟨rel, due⟩

lemma of_error (result : x m = .error stop m') (rel : R m m') : Ends R x m Q := by
  rw [Ends, result]
  exact rel

lemma pure (start : R m m) (due : Q v m) : Ends R (pure v) m Q := ⟨start, due⟩

lemma fail (start : R m m) : Ends R (fail cause) m Q := start

lemma fail_bind (start : R m m) : Ends R (Eval.fail cause >>= f) m P := start

section

variable (ends : Ends R x m Q)
include ends

lemma ok (result : x m = .ok v m') : R m m' ∧ Q v m' := by
  rw [Ends, result] at ends
  exact ends

lemma after : R m (x.after m) := by
  unfold Ends at ends
  unfold Eval.after
  cases result : x m with
  | ok v m' => grind
  | error stop m' => grind

lemma imp (wider : ∀ m', R m m' → R' m m')
    (weaker : ∀ v m', R m m' → Q v m' → Q' v m') : Ends R' x m Q' := by
  unfold Ends at ends ⊢
  split at ends
  · exact ⟨wider _ ends.1, weaker _ _ ends.1 ends.2⟩
  · exact wider _ ends

lemma weaken (weaker : ∀ v m', R m m' → Q v m' → Q' v m') :
    Ends R x m Q' := ends.imp (fun _ => id) weaker

lemma forget : Ends R x m fun _ _ => True := ends.weaken fun _ _ _ _ => trivial

end

lemma and (first : Ends R x m Q) (second : Ends R x m Q') :
    Ends R x m fun v m' => Q v m' ∧ Q' v m' := by
  unfold Ends at first second ⊢
  split at first
  case _ v m' result =>
    grind
  · exact first

lemma when {c : Prop} (general : Ends R x m fun _ _ => True) (due : c → Ends R x m Q) :
    Ends R x m fun v m' => c → Q v m' := by
  by_cases holds : c
  · exact (due holds).weaken fun _ _ _ result _ => result
  · exact general.weaken fun _ _ _ _ given => absurd given holds

lemma bind_from (first : Ends R x m Q)
    (next : ∀ v m', R m m' → Q v m' → Ends (fun _ => R m) (f v) m' P) : Ends R (x >>= f) m P := by
  unfold Ends at first
  change match EStateM.bind x f m with
    | .ok v m' => R m m' ∧ P v m'
    | .error _ m' => R m m'
  unfold EStateM.bind
  split at first
  case _ v m' result =>
    rw [result]
    exact next v m' first.1 first.2
  case _ e m' result =>
    rw [result]
    exact first

lemma bind (trans : ∀ {a b c}, R a b → R b c → R a c) (first : Ends R x m Q)
    (next : ∀ v m', R m m' → Q v m' → Ends R (f v) m' P) : Ends R (x >>= f) m P :=
  first.bind_from fun v m' start due =>
    (next v m' start due).imp (fun _ => trans start) fun _ _ _ => id

lemma throw (start : R m m) : Ends R (MonadExcept.throw stop) m Q := start

lemma throw_bind (start : R m m) : Ends R (MonadExcept.throw stop >>= f) m P := start

lemma tryCatch (trans : ∀ {a b c}, R a b → R b c → R a c) (body : Ends R x m Q)
    (handles : ∀ stop m', R m m' → Ends R (handler stop) m' Q) :
    Ends R (MonadExcept.tryCatch x handler) m Q := by
  unfold Ends at body
  change match EStateM.tryCatch x handler m with
    | .ok v m' => R m m' ∧ Q v m'
    | .error _ m' => R m m'
  unfold EStateM.tryCatch
  split at body
  case _ v m' result =>
    simp only [result]
    exact body
  case _ stop m' result =>
    simp only [result]
    have handled : Ends (fun _ => R m) (handler stop) m' Q :=
      (handles stop m' body).imp (fun _ => trans body) fun _ _ _ => id
    exact handled

end Ends

variable [Asking R]

lemma Ends.next (first : Ends R x m Q) (rest : ∀ v m', R m m' → Q v m' → Ends R (f v) m' P) :
    Ends R (x >>= f) m P := first.bind Asking.trans rest

lemma Ends.same {S : α → Prop} (first : Ends R x m fun v m' => m' = m ∧ S v)
    (rest : ∀ v, S v → Ends R (f v) m P) :
    Ends R (x >>= f) m P := first.next fun v m' _ due => by
  obtain ⟨rfl, due⟩ := due
  exact rest v due

lemma Ends.done {v : α} (due : Q v m) : Ends R (Pure.pure v) m Q := .pure (Asking.refl m) due

lemma Ends.failed : Ends R (Eval.fail cause) m Q := .fail (Asking.refl m)

lemma Ends.mapM (each : ∀ b m, Ends R (g b) m fun v _ => P b v) (bs : List β) (m) :
    Ends R (bs.mapM g) m fun vs _ => List.Forall₂ P bs vs := by
  induction bs generalizing m with
  | nil => exact .done .nil
  | cons b bs ih =>
    rw [mapM_cons]
    refine .next (each b m) fun v m1 _ first => ?_
    refine .next (ih m1) fun vs m2 _ others => ?_
    exact .done (.cons first others)

lemma Ends.findM? {P : β → Prop}
    (each : ∀ b m, Ends R (g b) m fun is _ => is = false → P b) (bs : List β) (m) :
    Ends R (bs.findM? g) m fun found _ => found = none → ∀ b ∈ bs, P b := by
  induction bs generalizing m with
  | nil => exact .done fun _ => nofun
  | cons b bs ih =>
    unfold List.findM?
    refine .next (each b m) fun is m1 _ first => ?_
    cases is with
    | true => exact .done nofun
    | false => simp_all

lemma Ends.go_on (same : x m = y m') (rel : R m m') (later : Ends R y m' Q) : Ends R x m Q := by
  unfold Ends at later ⊢
  rw [same]
  split at later
  · exact ⟨Asking.trans rel later.1, later.2⟩
  · exact Asking.trans rel later

def Keeps (R : Machine → Machine → Prop) (x : Eval α) : Prop := ∀ m, Ends R x m fun _ _ => True

-- The tagged lemmas lead `grind` through a computation: a step each, and the cases of a choice.
namespace Keeps

@[grind ←]
lemma pure (v : α) : Keeps R (Pure.pure v : Eval α) := fun _ => .done trivial

variable (cause : Failure)

@[grind ←]
lemma fail : Keeps R (Eval.fail cause : Eval α) := fun _ => .failed

@[grind ←]
lemma bind (first : Keeps R x) (next : ∀ v, Keeps R (f v)) : Keeps R (x >>= f) := fun m =>
  (first m).next fun v m' _ _ => next v m'

@[grind ←]
lemma fail_bind (g : α → Eval β) : Keeps R (Eval.fail cause >>= g) := fun m =>
  .fail_bind (Asking.refl m)

@[grind ←]
lemma get : Keeps R (get : Eval Machine) := fun m => .of_ok rfl (Asking.refl m) trivial

lemma modify [Working W] (store : ∀ m, (change m).store = m.store)
    (globals : ∀ m, (change m).globals = m.globals)
    (db : ∀ m, (change m).database = m.database) : Keeps W (modify change) := fun m =>
  .of_ok rfl (Working.note (store m) (globals m) (db m)) trivial

lemma mapM (keeps : ∀ b, Keeps R (g b)) (bs : List β) : Keeps R (bs.mapM g) := fun m =>
  (Ends.mapM keeps bs m).forget

@[grind ←]
lemma foldlM (keeps : ∀ v b, Keeps R (g v b)) (bs : List β) (v : α) : Keeps R (bs.foldlM g v) := by
  induction bs generalizing v with
  | nil => exact pure _
  | cons b bs ih => exact (keeps v b).bind fun w => ih w

@[grind ←]
lemma findM? (keeps : ∀ b, Keeps R (g b)) (bs : List β) : Keeps R (bs.findM? g) := fun m =>
  (Ends.findM? (fun b m => (keeps b m).weaken fun _ _ _ due _ => due) bs m).forget

@[grind ←]
lemma allM (keeps : ∀ b, Keeps R (g b)) (bs : List β) : Keeps R (bs.allM g) := by
  induction bs with
  | nil => exact pure _
  | cons b bs ih =>
    refine (keeps b).bind fun holds => ?_
    cases holds with
    | true => exact ih
    | false => exact pure _

@[grind ←]
lemma anyM (keeps : ∀ b, Keeps R (g b)) (bs : List β) : Keeps R (bs.anyM g) := by
  induction bs with
  | nil => exact pure _
  | cons b bs ih =>
    refine (keeps b).bind fun holds => ?_
    cases holds with
    | true => exact pure _
    | false => exact ih

end Keeps

/-- A result that shares no cell with anything older than a number of objects, and is no routine. -/
def New (n : Nat) (v : Value) (m : Machine) : Prop :=
  (∀ r, v ≠ .routine r) ∧ ∀ c : Nat, v = .object c → c < m.store.size ∧ (m.IsCell c → n ≤ c)

def IsBare : Value → Prop
  | .routine _ | .object _ => False
  | _ => True

attribute [grind] IsSpecial Number.toValue

@[grind =]
lemma isBare_iff (v) : IsBare v ↔ (∀ r, v ≠ .routine r) ∧ ∀ a, v ≠ .object a := by
  cases v <;> simp [IsBare]

lemma New.of_isBare (bare : IsBare v) : New n v m := by
  constructor
  · rintro r rfl
    exact bare
  · grind

lemma New.follow (new : New n v m) (follows : m.Follows m') : New n v m' := by
  refine ⟨new.1, fun c same => ?_⟩
  obtain ⟨small, later⟩ := new.2 c same
  have larger := follows.size_le
  exact ⟨by omega, fun cell => later ((follows.isCell small).1 cell)⟩

def Gives (R : Machine → Machine → Prop) (x : Eval Value) : Prop :=
  ∀ m n, n ≤ m.store.size → Ends R x m (New n)

namespace Gives

@[grind ←]
lemma keeps (gives : Gives S y) : Keeps S y := fun m => (gives m 0 (Nat.zero_le _)).forget

@[grind ←]
lemma pure (bare : IsBare v) : Gives R (Pure.pure v) := fun _ _ _ => .done (.of_isBare bare)

@[grind ←]
lemma fail (cause : Failure) : Gives R (Eval.fail cause) := fun _ _ _ => .failed

@[grind ←]
lemma fail_bind (cause : Failure) (g : α → Eval Value) : Gives R (Eval.fail cause >>= g) :=
  fun m _ _ => .fail_bind (Asking.refl m)

@[grind ←]
lemma bind (first : Keeps R x) (next : ∀ v, Gives R (g v)) : Gives R (x >>= g) := fun m n small =>
  (first m).next fun v m' follows _ => next v m' n (Nat.le_trans small (Asking.size_le follows))

@[grind ←]
lemma bind_new (first : Gives R y)
    (next : ∀ v m n, n ≤ m.store.size → New n v m → Ends R (h v) m (New n)) :
    Gives R (y >>= h) := fun m n small =>
  (first m n small).next fun v m' follows new =>
    next v m' n (Nat.le_trans small (Asking.size_le follows)) new

end Gives

def MayGive (R : Machine → Machine → Prop) (x : Eval (Option Value)) : Prop :=
  ∀ m n, n ≤ m.store.size → Ends R x m fun o m' => ∀ v, o = some v → New n v m'

namespace MayGive

@[grind ←]
lemma nothing : MayGive R (pure none) := fun _ _ _ => .done nofun

@[grind ←]
lemma pure (bare : IsBare v) : MayGive R (Pure.pure (some v)) := fun _ _ _ =>
  .done fun _ same => Option.some.inj same ▸ .of_isBare bare

@[grind ←]
lemma of_gives (gives : Gives R z) :
    MayGive R (z >>= fun v => Pure.pure (some v)) := fun m n small =>
  (gives m n small).next fun _ _ _ new => .done fun _ same => Option.some.inj same ▸ new

@[grind ←]
lemma bind (first : Keeps R x) (next : ∀ v, MayGive R (g v)) : MayGive R (x >>= g) :=
  fun m n small =>
  (first m).next fun v m' follows _ => next v m' n (Nat.le_trans small (Asking.size_le follows))

lemma orElse (first : MayGive R y) (given : ∀ v, h (some v) = Pure.pure v)
    (other : Gives R (h none)) : Gives R (y >>= h) :=
  fun m n small => (first m n small).next fun o m' follows new => by
    cases o with
    | none => exact other m' n (Nat.le_trans small (Asking.size_le follows))
    | some v =>
      rw [given]
      exact .done (new v rfl)

end MayGive
end

variable [Asking R] {β α : Type} {old : Object} (entries : List (Value × Value))

@[grind ←]
lemma keeps_load? (a) : Keeps R (load? a) := by grind [load?]

lemma Ends.load (next : Ends S (f (m.store.get? a)) m P) : Ends S (load? a >>= f) m P := by
  exact next

lemma Ends.read (next : Ends S (f m) m P) : Ends S (get >>= f) m P := by
  exact next

lemma Ends.discard (ends : Ends R x m Q) : Ends R (Functor.discard x) m fun _ _ => True := by
  exact ends.next fun _ m' _ _ => .done trivial

lemma Keeps.discard (keeps : Keeps R x) : Keeps R (Functor.discard x) := fun m => (keeps m).discard

lemma keeps_allocateQuery [Working W] (query : o.IsOfQuery) : Keeps W (allocate o) := fun m =>
  .of_ok rfl (Working.pushQuery m query) trivial

lemma ends_new (pushed : S m (m.push o)) (small : n ≤ m.store.size) :
    Ends S (new o) m fun v m' => New n v m' := by
  refine .of_ok (new_eq o m) pushed ⟨nofun, ?_⟩
  rintro c ⟨⟩
  rw [Machine.size_push]
  exact ⟨by omega, fun _ => small⟩

lemma gives_new_of (pushes : ∀ m, S m (m.push o)) :
    Gives S (new o) := fun m _ => ends_new (pushes m)

@[grind ←]
lemma gives_new (other : ¬ o.IsSpecial) : Gives R (new o) :=
  gives_new_of fun m => Asking.push m other

@[grind ←]
lemma keeps_new (other : ¬ o.IsSpecial) : Keeps R (new o) := (gives_new other).keeps

lemma ends_put_kind {K : Object → Prop} (kinds : ∀ o, K o.outline ↔ K o)
    (allowed : ∀ {m : Machine} {a : Nat} {old o : Object}, m.store.get? a = some old →
      K old → o.outline = old.outline → R m (m.put a o))
    (found : m.store.get? a = some old) (kind : K old) (rel : R m m')
    (same : o.outline = old.outline) :
    Ends R (put a o) m' fun _ m'' => m''.database = m'.database := by
  obtain ⟨now, kept, outline⟩ := (Asking.follows rel).get? found
  have kindNow : K now := by rwa [← kinds, outline, kinds]
  exact .of_ok (put_eq a o m') (allowed kept kindNow (same.trans outline.symm)) rfl

lemma ends_putValues [Assigning A] (found : m.store.get? a = some old) (holds : old.HoldsValues)
    (rel : A m m') (same : o.outline = old.outline) :
    Ends A (put a o) m' fun _ m'' => m''.database = m'.database :=
  ends_put_kind holdsValues_outline Assigning.putValues found holds rel same

lemma ends_putAnswer [Querying A] (found : m.store.get? a = some old) (answer : old.IsAnswer)
    (rel : A m m') (same : o.outline = old.outline) :
    Ends A (put a o) m' fun _ m'' => m''.database = m'.database :=
  ends_put_kind isAnswer_outline Querying.putAnswer found answer rel same

lemma ends_put [Working W] (found : m.store.get? a = some old) (other : ¬ old.IsCell)
    (rel : W m m') (same : o.outline = old.outline) :
    Ends W (put a o) m' fun _ m'' => m''.database = m'.database :=
  ends_put_kind (fun o => not_congr o.isCell_outline) Working.put found other rel same

@[grind ←]
lemma keeps_objectOf? (v) : Keeps R (objectOf? v) := by
  unfold objectOf?
  grind

lemma keeps_snapshot (v) : Keeps R (snapshot v) := .bind .get fun _ => .pure _

def Looks {α : Type} (x : Eval α) : Prop := ∀ m, ∃ v, x m = .ok v m

lemma Looks.ends (looks : Looks x) (m) : Ends R x m fun _ m' => m' = m := by
  obtain ⟨v, result⟩ := looks m
  exact .of_ok result (Asking.refl m) rfl

lemma looks_snapshot (v) : Looks (snapshot v) := fun _ => ⟨_, rfl⟩

lemma Looks.mapM (looks : ∀ b, Looks (g b)) (bs : List β) : Looks (bs.mapM g) := by
  intro m
  induction bs with
  | nil => exact ⟨[], rfl⟩
  | cons b bs ih =>
    obtain ⟨v, first⟩ := looks b m
    obtain ⟨vs, later⟩ := ih
    refine ⟨v :: vs, ?_⟩
    rw [mapM_cons, bind_ok first, bind_ok later]
    rfl

def Finds (m : Machine) (v : Value) : Option (Address × Value) → Prop
  | some (a, content) => v = .object a ∧ m.store.get? a = some (.cell content)
  | none => ∀ c : Nat, v = .object c → ¬ m.IsCell c

lemma ends_cell? (v m) : Ends R (cell? v) m fun found m' => m' = m ∧ Finds m v found := by
  unfold cell?
  split
  case _ a =>
    refine .load ?_
    split
    case _ found => exact .done ⟨rfl, rfl, found⟩
    case _ other =>
      refine .done ⟨rfl, fun c same cell => ?_⟩
      cases same
      obtain ⟨content, found⟩ := cell
      exact other content found
  case _ other =>
    refine .done ⟨rfl, fun c same _ => ?_⟩
    exact other c same

@[grind ←]
lemma keeps_cell? (v) : Keeps R (cell? v) := fun m => (ends_cell? v m).forget

@[grind ←]
lemma keeps_unwrap (v) : Keeps R (unwrap v) := by grind [unwrap]

lemma ends_wrap (small : n ≤ m.store.size) (v) :
    Ends R (wrap v) m fun w m' => w = v ∧ New 0 w m' ∨ New n w m' := by
  have made {content} (contains) :
      Ends R (new (.cell content)) m fun w m' => w = v ∧ New 0 w m' ∨ New n w m' :=
    (ends_new (Asking.pushCell contains) small).weaken fun _ _ _ new => .inr new
  have there {a} {o} (found : m.store.get? a = some o) :
      Ends R (pure (Value.object a)) m fun w m' => w = .object a ∧ New 0 w m' ∨ New n w m' := by
    refine .done (.inl ⟨rfl, nofun, ?_⟩)
    rintro c ⟨⟩
    exact ⟨Machine.get?_lt found, fun _ => Nat.zero_le _⟩
  unfold wrap
  split
  · exact made (.inr nofun)
  · exact .done (.inl ⟨rfl, .of_isBare trivial⟩)
  · refine .load ?_
    split
    case _ found => exact there found
    case _ found => exact there found
    case _ found => exact there found
    case _ other _ _ found =>
      refine made (.inr ?_)
      rintro c ⟨⟩
      refine ⟨Machine.get?_lt found, ?_⟩
      rintro ⟨w, cell⟩
      exact other w (Option.some.inj (found.symm.trans cell))
    · exact made (.inr nofun)
  case _ other => exact made (.inr fun c same => absurd same (other c))

@[grind ←]
lemma gives_wrap (bare : IsBare v) : Gives R (wrap v) := fun _ _ small => by
  refine (ends_wrap small v).weaken ?_
  rintro w m' - (⟨rfl, -⟩ | new)
  · exact .of_isBare bare
  · exact new

@[grind ←]
lemma keeps_wrap (v) : Keeps R (wrap v) := fun _ => (ends_wrap (Nat.zero_le _) v).forget

@[grind ←]
lemma Gives.wrap {x : Eval Value} (gives : Gives R x) : Gives R (x >>= Eval.wrap) := by
  refine gives.bind_new fun v m n small given => ?_
  refine (ends_wrap small v).weaken ?_
  rintro w m' follows (⟨rfl, -⟩ | new)
  · exact given.follow (Asking.follows follows)
  · exact new

@[grind ←]
lemma keeps_isAbsent (v) : Keeps R (isAbsent v) := by grind [isAbsent]

@[grind ←]
lemma keeps_ofExcept (e : Except Failure α) : Keeps R (ofExcept e) := by
  unfold ofExcept
  grind

@[grind ←]
lemma keeps_text (v) : Keeps R (text v) := by grind [text]

@[grind ←]
lemma keeps_bareTruth (v) : Keeps R (bareTruth v) := by
  unfold bareTruth
  grind

lemma ends_field (found : m.store.get? a = some (.record fields)) (name) :
    Ends R (Record.field a fields name) m fun _ _ => True := by
  unfold Record.field
  split
  · exact .done trivial
  case _ missing => exact .of_ok rfl (Asking.addField found missing) trivial

section

variable (v : Value)

@[grind ←]
lemma keeps_contentTruth : Keeps R (contentTruth v) := fun m => by
  unfold contentTruth
  split <;> first | exact Keeps.pure _ m | exact Keeps.fail _ m | skip
  refine .load ?_
  split
  case _ fields found =>
    rw [Ends, bind_ok (new_eq _ m)]
    by_cases missing : (fields.get? "__bool__").isNone
    · rw [if_pos missing]
      exact Asking.addField found (Option.isNone_iff_eq_none.1 missing)
    · rw [if_neg missing]
      exact Asking.pushCell (.inr nofun)
  · exact Keeps.fail _ m
  · exact Keeps.fail _ m

@[grind ←]
lemma keeps_truth : Keeps R (truth v) := by grind [truth]

@[grind ←]
lemma keeps_toInteger : Keeps R (toInteger v) := by
  unfold toInteger
  grind

@[grind ←]
lemma keeps_toFloat : Keeps R (toFloat v) := by
  unfold toFloat
  grind

@[grind ←]
lemma keeps_toItems : Keeps R (toItems v) := by
  unfold toItems
  grind

@[grind ←]
lemma keeps_position? : Keeps R (position? v) := by grind [position?]

@[grind ←]
lemma keeps_toPosition : Keeps R (toPosition v) := by grind [toPosition]

end

@[grind ←]
lemma keeps_isLike (sample v) : Keeps R (isLike sample v) := by
  unfold isLike
  grind

@[grind ←]
lemma keeps_likened (sample v) : Keeps R (likened sample v) := by
  unfold likened
  grind

section

variable {deeper : Comparison → Value → Value → Eval Value}
  (inner : ∀ op x y, Gives R (deeper op x y)) (op : Comparison)

include inner

@[grind ←]
lemma keeps_itemsEqual (x y) : Keeps R (itemsEqual deeper x y) := by grind [itemsEqual]

lemma gives_compareItems (xs ys) : Gives R (compareItems deeper op xs ys) := by grind [compareItems]

@[grind ←]
lemma keeps_lookup? (entries : List (Value × Value)) (key) : Keeps R (lookup? deeper entries key) := by
  grind [lookup?]

lemma keeps_entriesEqual (xs ys : List (Value × Value)) : Keeps R (entriesEqual deeper xs ys) := by
  grind [entriesEqual]

lemma mayGive_compareBare (a b) : MayGive R (compareBare deeper op a b) := by
  unfold compareBare
  split
  · split <;> exact .pure trivial
  split
  · exact .pure trivial
  · refine .bind (keeps_objectOf? _) fun o => .bind (keeps_objectOf? _) fun o' => ?_
    split
    · exact .of_gives (gives_compareItems inner op _ _)
    · exact .of_gives (gives_compareItems inner op _ _)
    · split
      · exact .bind (keeps_entriesEqual inner _ _) fun _ => .pure trivial
      · exact .nothing
    · grind

lemma gives_compareCell (content other) : Gives R (compareCell deeper op content other) := by
  grind [compareCell]

end

lemma gives_compareWithin (steps) : ∀ (op) (a b), Gives R (compareWithin steps op a b) := by
  induction steps with
  | zero => exact fun _ _ _ => .fail _
  | succ steps ih =>
    intro op a b
    unfold compareWithin
    refine .bind (keeps_cell? a) fun found => ?_
    split
    · exact gives_compareCell ih op _ b
    split
    · exact .pure trivial
    · refine (mayGive_compareBare ih op a b).orElse (fun _ => rfl) ?_
      refine .bind (keeps_cell? b) fun found => ?_
      split
      · exact gives_compareCell ih op.swap _ a
      split
      · exact .pure trivial
      · grind

variable (op : Comparison)

@[grind ←]
lemma gives_compare (a b) : Gives R (compare op a b) := gives_compareWithin depthLimit op a b

@[grind ←]
lemma keeps_holds (a b) : Keeps R (holds op a b) := by grind [holds]

lemma isBare_toValue (n : Number) : IsBare n.toValue := by
  cases n <;> trivial

@[grind ←]
lemma gives_onNumbers (f : Number → Number → Except Failure Number) (a b) :
    Gives R (onNumbers f a b) := by
  unfold onNumbers
  split
  · exact .bind (keeps_ofExcept _) fun n => .pure (isBare_toValue n)
  · exact .fail _

lemma mayGive_repeatSequence? (v) (n : Int) : MayGive R (repeatSequence? v n) := by
  unfold repeatSequence?
  grind

section

variable (a b : Value)

lemma gives_addBare : Gives R (addBare a b) := by
  unfold addBare
  grind

lemma gives_subBare : Gives R (subBare a b) := by
  unfold subBare
  grind

lemma gives_mulBare : Gives R (mulBare a b) := by
  unfold mulBare
  split
  · exact .pure trivial
  split
  · exact gives_onNumbers _ a b
  · refine .bind (keeps_position? b) fun place => ?_
    rcases place with _ | n
    on_goal 2 => refine (mayGive_repeatSequence? a n).orElse (fun _ => rfl) ?_
    -- the second operand is the sequence if the first one is not
    all_goals
      dsimp only
      split
      · exact (mayGive_repeatSequence? b _).orElse (fun _ => rfl) (.fail _)
      · exact .fail _

lemma gives_divBare : Gives R (divBare a b) := by
  unfold divBare
  grind

lemma gives_modBare : Gives R (modBare a b) := by
  unfold modBare
  grind

end

lemma gives_onCells (gives : ∀ x y, Gives R (bare x y)) (a b) : Gives R (onCells bare a b) := by
  refine .bind (keeps_cell? a) fun found => ?_
  split
  · grind
  · exact gives a b

@[grind ←]
lemma gives_add (a b) : Gives R (add a b) := gives_onCells gives_addBare a b

@[grind ←]
lemma gives_sub (a b) : Gives R (sub a b) := gives_onCells gives_subBare a b

lemma gives_mul (a b) : Gives R (mul a b) := gives_onCells gives_mulBare a b

lemma gives_div (a b) : Gives R (div a b) := gives_onCells gives_divBare a b

@[grind ←]
lemma gives_mod (a b) : Gives R (mod a b) := gives_onCells gives_modBare a b

lemma gives_calculate (op a b) : Gives R (calculate op a b) := by
  cases op with
  | add => exact gives_add a b
  | sub => exact gives_sub a b
  | mul => exact gives_mul a b
  | div => exact gives_div a b

@[grind ←]
lemma gives_negBare (v) : Gives R (negBare v) := by
  unfold negBare
  split
  · exact .pure trivial
  · split
    · exact .pure (isBare_toValue _)
    · exact .fail _

lemma gives_neg (v) : Gives R (neg v) := by grind [neg]

def IsReplaceable (m : Machine) (v : Value) : Prop :=
  (∃ a : Nat, v = .object a ∧ m.IsCell a) ∨ v.integer?.isSome

/-- What an assignment can leave in place of a value: the same thing, or something that is neither a
cell nor a routine. -/
def Leaves (m : Machine) (old new : Value) : Prop :=
  (new = old ∧ ∃ a : Nat, old = .object a) ∨
    IsReplaceable m old ∧ (∀ r, new ≠ .routine r) ∧
      ∀ c : Nat, new = .object c → c < m.store.size ∧ ¬ m.IsCell c

lemma ends_assign [Assigning A] (target v m) :
    Ends A (assign target v) m fun w m' => Leaves m' target w := by
  unfold assign
  split
  case _ a =>
    refine .load ?_
    split
    case _ content found =>
      refine .next (ends_wrap (Nat.zero_le _) v) fun src m' follows wrapped => ?_
      have there : New 0 src m' := wrapped.elim And.right id
      have cell := ((Asking.follows follows).isCell (Machine.get?_lt found)).2 ⟨content, found⟩
      refine .next (ends_cell? src m') ?_
      rintro taken _ - ⟨rfl, finds⟩
      cases taken with
      | some taken =>
        refine .next (.of_ok (put_eq a _ _) (Assigning.putCell cell
          (.inl ⟨taken.1, finds.2⟩)) (Q := fun _ _ => True) trivial) fun _ m' _ _ => ?_
        exact .done (.inl ⟨rfl, a, rfl⟩)
      | none =>
        refine .done (.inr ⟨.inl ⟨a, rfl, cell⟩, there.1, fun c same => ?_⟩)
        exact ⟨(there.2 c same).1, finds c same⟩
    case _ fields found =>
      refine .next (keeps_objectOf? v m) fun o m' follows _ => ?_
      split
      · refine .next (ends_putValues found trivial follows rfl) fun _ m' _ _ => ?_
        exact .done (.inl ⟨rfl, a, rfl⟩)
      · exact .failed
    case _ => exact .failed
  case _ =>
    split
    case _ shifted _ =>
      split
      · exact .failed
      · exact .done (.inr ⟨.inr (by rw [shifted]; rfl), by simp, by simp⟩)
    · exact .failed

lemma keeps_assign [Assigning A] (target v) : Keeps A (assign target v) := fun m =>
  (ends_assign target v m).forget

lemma keeps_isKeyWithin (steps) : ∀ v, Keeps R (isKeyWithin steps v) := by
  induction steps with
  | zero => exact fun _ => .fail _
  | succ steps ih =>
    intro v
    unfold isKeyWithin
    split
    · exact .pure _
    · grind

variable (v : Value)

@[grind ←]
lemma keeps_isKey : Keeps R (isKey v) := keeps_isKeyWithin depthLimit v

@[grind ←]
lemma keeps_findEntry (key) : Keeps R ( entry? entries key) := by grind [ entry?]

lemma ends_setEntry (key v m) : Ends R (setEntry entries key v) m fun entries' _ =>
      ∀ e ∈ entries', e.1 = key ∨ ∃ old ∈ entries, e.1 = old.1 := by
  refine .next (keeps_isKey key m) fun isKey m1 _ _ => ?_
  split
  case _ =>
    refine .next (Keeps.findM? (fun e => keeps_itemsEqual gives_compare key e.1)
      entries m1) fun found m2 _ _ => ?_
    split
    · refine .done fun e mem => ?_
      rcases mem_append.1 mem with mem | mem
      · exact .inr ⟨e, mem, rfl⟩
      · grind
    · refine (Ends.mapM (P := fun e e' => e'.1 = e.1) (fun e m => ?_) entries m2).weaken
        fun entries' _ _ same e' mem => ?_
      · refine .next (keeps_itemsEqual gives_compare key e.1 m) fun isKey m' _ _ => ?_
        split <;> exact .done rfl
      · obtain ⟨e, old, equal⟩ := exists_of_mem_right same mem
        exact .inr ⟨e, old, equal⟩
  case _ => exact .fail_bind (Asking.refl m1)

lemma keeps_setEntry (key v) :
    Keeps R (setEntry entries key v) := fun m => (ends_setEntry entries key v m).forget

@[grind ←]
lemma keeps_itemOf (items index) : Keeps R (itemOf items index) := by grind [itemOf]

@[grind ←]
lemma keeps_item (v index) : Keeps R (item v index) := by
  unfold item
  grind

lemma keeps_setItem [Assigning A] (target index v) : Keeps A (setItem target index v) := fun m => by
  unfold setItem
  split
  case _ a =>
    refine .load ?_
    split
    case _ items found =>
      refine .next (keeps_toPosition index m) fun place m' follows _ => ?_
      split
      · exact .forget (ends_putValues found trivial follows rfl)
      · exact .failed
    case _ entries found =>
      refine .next (keeps_setEntry entries index v m) fun changed m' follows _ => ?_
      exact .forget (ends_putValues found trivial follows rfl)
    case _ => exact .failed
  case _ => exact .failed

lemma keeps_hasItem (v x) : Keeps R (hasItem v x) := by
  unfold hasItem
  grind

@[grind ←]
lemma keeps_length : Keeps R (length v) := by
  unfold length
  grind

@[grind ←]
lemma gives_slice (cut : {α : Type} → List α → List α) : Gives R (slice v cut) := by
  unfold slice
  grind

mutual
@[grind ←]
theorem keeps_ofData (d : Data) : Keeps R (ofData d) := by
  match d with
  | .none | .bool _ | .int _ | .float _ | .text _ => exact .pure _
  | .list items | .tuple items => exact (keeps_ofDataList items).bind fun _ => keeps_new id
  | .dict entries => exact (keeps_ofDataEntries [] entries).bind fun _ => keeps_new id

theorem keeps_ofDataList (ds : List Data) : Keeps R (ofDataList ds) := by
  match ds with
  | [] => exact .pure _
  | d :: ds => exact (keeps_ofData d).bind fun _ => (keeps_ofDataList ds).bind fun _ => .pure _

theorem keeps_ofDataEntries (done : List (Value × Value)) (ds : List (Data × Data)) :
    Keeps R (ofDataEntries done ds) := by
  match ds with
  | [] => exact .pure _
  | (k, d) :: ds => exact (keeps_ofData k).bind fun _ => (keeps_ofData d).bind fun _ =>
      (keeps_setEntry done _ _).bind fun done => keeps_ofDataEntries done ds
end

end Eval
end BlockScript
