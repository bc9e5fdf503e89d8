import BlockScript.Decimal
import BlockScript.Failure

/-!
Arithmetic on integers of any size and binary fractions. An operation with a fraction in it is done
on fractions; comparisons are exact.
-/

namespace BlockScript

namespace Decimal

def ofInt (n : Int) : Float :=
  let magnitude := quotient n.natAbs 1
  if n < 0 then -magnitude else magnitude

def remainder (a b : Binary) : Float :=
  let e := min a.exponent b.exponent
  let x := a.mantissa * Nat.pow 2 (a.exponent - e).toNat
  let y := b.mantissa * Nat.pow 2 (b.exponent - e).toNat
  let r := x % y
  let magnitude := quotient (r * Nat.pow 2 e.toNat) (Nat.pow 2 (-e).toNat)
  if a.negative then -magnitude else magnitude

end Decimal

inductive Number where
  | int (n : Int)
  | float (x : Float)

namespace Number

def isZero : Number → Bool
  | int n => n == 0
  | float x => x == 0.0

def toFloat : Number → Except Failure Float
  | float x => .ok x
  | int n =>
    let x := Decimal.ofInt n
    if x.isInf then .error .tooLarge else .ok x

def onFloats (f : Float → Float → Float) (a b : Number) : Except Failure Number := do
  return float (f (← a.toFloat) (← b.toFloat))

def add : Number → Number → Except Failure Number
  | int a, int b => .ok (int (a + b))
  | a, b => onFloats (· + ·) a b

def sub : Number → Number → Except Failure Number
  | int a, int b => .ok (int (a - b))
  | a, b => onFloats (· - ·) a b

def mul : Number → Number → Except Failure Number
  | int a, int b => .ok (int (a * b))
  | a, b => onFloats (· * ·) a b

def div (a b : Number) : Except Failure Number := do
  match a, b with
  | int a, int b =>
    if b = 0 then throw .divisionByZero
    let magnitude := Decimal.quotient a.natAbs b.natAbs
    if magnitude.isInf then throw .tooLarge
    return float (if (a < 0) != (b < 0) then -magnitude else magnitude)
  | a, b =>
    let x ← a.toFloat
    let y ← b.toFloat
    if y == 0.0 then throw .divisionByZero
    return float (x / y)

def modFloat (x y : Float) : Float :=
  match Decimal.Binary.ofFloat? x, Decimal.Binary.ofFloat? y with
  | some a, some b =>
    let r := Decimal.remainder a b
    if r == 0.0 then (if b.negative then -0.0 else 0.0)
    else if (y < 0.0) != (r < 0.0) then r + y
    else r
  | some a, none =>
    if y.isNaN then y
    else if a.mantissa = 0 then (if y < 0.0 then -0.0 else 0.0)
    else if (y < 0.0) != (x < 0.0) then x + y
    else x
  | none, _ => 0.0 / 0.0

def mod (a b : Number) : Except Failure Number := do
  match a, b with
  | int a, int b => if b = 0 then throw .divisionByZero else return int (a.fmod b)
  | a, b =>
    let x ← a.toFloat
    let y ← b.toFloat
    if y == 0.0 then throw .divisionByZero
    return float (modFloat x y)

def neg : Number → Number
  | int n => int (-n)
  | float x => float (-x)

def compareBinary (n : Int) (b : Decimal.Binary) : Ordering :=
  let m : Int := if b.negative then -(b.mantissa : Int) else b.mantissa
  compare (n * Int.pow 2 (-b.exponent).toNat) (m * Int.pow 2 b.exponent.toNat)

def order? : Number → Number → Option Ordering
  | int a, int b => some (compare a b)
  | float x, float y =>
    if x < y then some .lt else if y < x then some .gt else if x == y then some .eq else none
  | int a, float y =>
    match Decimal.Binary.ofFloat? y with
    | some b => some (compareBinary a b)
    | none => if y.isNaN then none else if y < 0.0 then some .gt else some .lt
  | float x, int b =>
    match Decimal.Binary.ofFloat? x with
    | some a => some (compareBinary b a).swap
    | none => if x.isNaN then none else if x < 0.0 then some .lt else some .gt

def toValue : Number → Value
  | int n => .int n
  | float x => .float x

end Number

def Value.number? : Value → Option Number
  | .bool b => some (.int (if b then 1 else 0))
  | .int n => some (.int n)
  | .float x => some (.float x)
  | _ => Option.none

def Value.integer? : Value → Option Int
  | .bool b => some (if b then 1 else 0)
  | .int n => some n
  | _ => Option.none

end BlockScript
