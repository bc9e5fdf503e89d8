import BlockScript.Target.Syntax
import BlockScript.Value

/-!
The store holds the objects of a running program. An object is made at a new address and stays
there; only what it holds changes.
-/

namespace BlockScript

abbrev Bindings := List (String × Value)

namespace Bindings

def get? (b : Bindings) (name : String) : Option Value := List.lookup name b

def set (b : Bindings) (name : String) (value : Value) : Bindings :=
  match b with
  | [] => [(name, value)]
  | (other, old) :: rest =>
    if other = name then (name, value) :: rest else (other, old) :: set rest name value

def setAll (b : Bindings) (more : List (String × Value)) : Bindings :=
  more.foldl (fun b entry => b.set entry.1 entry.2) b

def names (b : Bindings) : List String := b.map (·.1)

theorem get?_set_self (b : Bindings) (name : String) (value : Value) :
    (b.set name value).get? name = some value := by
  induction b with
  | nil => simp [set, get?]
  | cons entry rest ih =>
    obtain ⟨other, old⟩ := entry
    by_cases same : other = name
    · simp [set, get?, same]
    · have different : (name == other) = false := by simp [Ne.symm same]
      simpa [set, get?, List.lookup_cons, same, different] using ih

theorem get?_set_of_ne (b : Bindings) {name other : String} (value : Value) (h : other ≠ name) :
    (b.set name value).get? other = b.get? other := by
  induction b with
  | nil =>
    have different : (other == name) = false := by simp [h]
    simp [set, get?, List.lookup_cons, different]
  | cons entry rest ih =>
    obtain ⟨first, old⟩ := entry
    by_cases same : first = name
    · have different : (other == name) = false := by simp [h]
      simp [set, get?, List.lookup_cons, same, different]
    · by_cases here : other = first
      · simp [set, get?, same, here]
      · have apart : (other == first) = false := by simp [here]
        simpa [set, get?, List.lookup_cons, same, apart] using ih

end Bindings

structure Cursor where
  query : Value
  /-- The names that the query takes from where it is opened. -/
  binds : Value
  parameters : Value
  /-- The execution that rows are fetched from, while the cursor is open. -/
  execution : Option Address := none
  /-- Whether the last fetch gave a row, once there was one. -/
  found : Option Bool := none

structure Execution where
  /-- The mock that answers it. -/
  mock : Option Address := none
  rowCount : Value := .none
  /-- The values that the query was executed with. -/
  binds : Bindings := []

structure Mock where
  rows : Option (List Value) := none
  rowCount : Value := .none
  /-- The execution that took it. -/
  execution : Option Address := none

structure Frame where
  /-- The names that belong to the routine, bound or not. -/
  own : List String
  values : Bindings
  /-- The frame of the routine around it. -/
  outer : Option Address

structure Function where
  name : String
  parameters : List String
  isStatic : Bool
  body : List Target.Stmt
  /-- The frame that it was defined in. -/
  outer : Option Address

structure Package where
  name : String
  bases : List Address
  members : Bindings

inductive Object where
  | cell (value : Value)
  | list (items : List Value)
  | tuple (items : List Value)
  | dict (entries : List (Value × Value))
  | table (items : List Value) (element : Value)
  | record (fields : Bindings)
  | cursor (cursor : Cursor)
  | execution (execution : Execution)
  | mock (mock : Mock)
  | frame (frame : Frame)
  | function (function : Function)
  | package (package : Package)
  /-- A thing of a package of the program, with members of its own. -/
  | member (package : Address) (members : Bindings)

structure Store where
  objects : Array Object := #[]

namespace Store

def get? (s : Store) (a : Address) : Option Object := s.objects[a]?

def size (s : Store) : Nat := s.objects.size

def push (s : Store) (o : Object) : Store := ⟨s.objects.push o⟩

def set (s : Store) (a : Address) (o : Object) : Store := ⟨s.objects.setIfInBounds a o⟩

theorem get?_push_size (s : Store) (o : Object) : (s.push o).get? s.size = some o := by
  simp [get?, push, size]

theorem get?_push_of_lt (s : Store) (o : Object) {a : Address} (h : a < s.size) :
    (s.push o).get? a = s.get? a := by
  have different : a ≠ s.objects.size := Nat.ne_of_lt h
  simp [get?, push, Array.getElem?_push, different]

theorem get?_set_self (s : Store) (o : Object) {a : Address} (h : a < s.size) :
    (s.set a o).get? a = some o := by
  have inside : a < s.objects.size := h
  simp [get?, set, inside]

theorem get?_set_of_ne (s : Store) (o : Object) {a b : Address} (h : a ≠ b) :
    (s.set a o).get? b = s.get? b := by
  simp [get?, set, h]

end Store
end BlockScript
