import BlockScript.Machine.Arithmetic
import BlockScript.Text.Slice

/-!
Tables: lists with indices from one on. A table grows to any index that is asked for, and what it
grows by is made by the constructor of its elements.
-/

namespace BlockScript.Table

open Eval

def contents (a : Address) : Eval (List Value × Value) := do
  match ← load? a with
  | some (.table items element) => return (items, element)
  | _ => fail .unsuited

def rounds : Value → Nat
  | .int n => n.toNat
  | .float x =>
    if x > 0.0 then
      match Decimal.truncate? x with
      | some n => if Decimal.ofInt n == x then n.toNat else n.toNat + 1
      | none => 0
    else 0
  | _ => 0

section

variable (make : Value → Eval Value)

def extend (a : Address) : Nat → Eval Unit
  | 0 => return
  | n + 1 => do
    let (_, element) ← contents a
    let v ← make element
    let (items, element) ← contents a
    put a (.table (items ++ [v]) element)
    extend a n

def reach (a : Address) (index : Value) : Eval Value := do
  let offset ← sub (← unwrap index) (.int 1)
  let (items, _) ← contents a
  let wanted ← add offset (.int 1)
  if ← holds .ge (.int items.length) wanted then return offset
  extend make a (rounds (← sub wanted (.int items.length)))
  return offset

def slot (a : Address) (offset : Value) : Eval Nat := do
  let (items, _) ← contents a
  match Slice.slot? items.length (← toPosition offset) with
  | some i => return i
  | none => fail .outOfRange

def get (a : Address) (index : Value) : Eval Value := do
  let i ← slot a (← reach make a index)
  return (← contents a).1.getD i .none

def set (a : Address) (index v : Value) : Eval Unit := do
  let i ← slot a (← reach make a index)
  let (items, element) ← contents a
  put a (.table (items.set i v) element)

end

def delete (a : Address) : Eval Value := do
  let (_, element) ← contents a
  put a (.table [] element)
  return .none

def exists? (a : Address) (index : Value) : Eval Value := do
  let offset ← sub (← unwrap index) (.int 1)
  let nonnegative ← compare .ge offset (.int 0)
  if ← truth nonnegative then compare .lt offset (.int (← contents a).1.length)
  else return nonnegative

def count (a : Address) : Eval Value := do return .int (← contents a).1.length

def next (a : Address) (index : Value) : Eval Value := do
  let index ← unwrap index
  if ← holds .ge index (.int (← contents a).1.length) then return .null
  wrap (← add index (.int 1))

def prior (index : Value) : Eval Value := do
  let index ← unwrap index
  if ← holds .eq index (.int 1) then return .null
  wrap (← sub index (.int 1))

end BlockScript.Table
