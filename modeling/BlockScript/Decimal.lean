/-!
Numbers in decimal notation. Reading takes the digits of any script and gives the binary number
nearest to the text; writing takes the fewest digits that read back as the same number, and of those
the nearest to it.
-/

namespace BlockScript.Digit

/-- The zeros of all scripts that have digits of their own: they have them in one row. -/
def zeros : List Nat :=
  [48, 1632, 1776, 1984, 2406, 2534, 2662, 2790, 2918, 3046, 3174, 3302, 3430, 3558, 3664, 3792,
    3872, 4160, 4240, 6112, 6160, 6470, 6608, 6784, 6800, 6992, 7088, 7232, 7248, 42528, 43216,
    43264, 43472, 43504, 43600, 44016, 65296, 66720, 68912, 69734, 69872, 69942, 70096, 70384,
    70736, 70864, 71248, 71360, 71472, 71904, 72016, 72784, 73040, 73120, 92768, 92864, 93008,
    120782, 120792, 120802, 120812, 120822, 123200, 123632, 125264, 130032]

def value? (c : Char) : Option Nat :=
  (zeros.find? fun z => z ≤ c.toNat && c.toNat < z + 10).map (c.toNat - ·)

def common (c : Char) : Char :=
  if c.toNat < 128 then c
  else match value? c with
    | some n => Char.ofNat ('0'.toNat + n)
    | none => c

end BlockScript.Digit

namespace BlockScript.Decimal

structure Binary where
  negative : Bool
  mantissa : Nat
  exponent : Int
deriving DecidableEq, Repr

def Binary.ofFloat? (x : Float) : Option Binary :=
  let bits := x.toBits.toNat
  let negative := Nat.pow 2 63 ≤ bits
  let field : Nat := bits / Nat.pow 2 52 % Nat.pow 2 11
  let fraction := bits % Nat.pow 2 52
  if field = 2047 then none
  else if field = 0 then some ⟨negative, fraction, -1074⟩
  else some ⟨negative, fraction + Nat.pow 2 52, (field : Int) - 1075⟩

def toInt? (x : Float) : Option Int := do
  let b ← Binary.ofFloat? x
  let magnitude : Nat ←
    if 0 ≤ b.exponent then some (b.mantissa * Nat.pow 2 b.exponent.toNat)
    else
      let divisor := Nat.pow 2 (-b.exponent).toNat
      if b.mantissa % divisor = 0 then some (b.mantissa / divisor) else none
  return if b.negative then -(magnitude : Int) else magnitude

def truncate? (x : Float) : Option Int := do
  let b ← Binary.ofFloat? x
  let magnitude : Nat :=
    if 0 ≤ b.exponent then b.mantissa * Nat.pow 2 b.exponent.toNat
    else b.mantissa / Nat.pow 2 (-b.exponent).toNat
  return if b.negative then -(magnitude : Int) else magnitude

/-- The binary number `mantissa * 2 ^ exponent`, for a mantissa below `2 ^ 53` and an exponent in
the range of binary numbers. -/
def ofParts (mantissa : Nat) (exponent : Int) : Float :=
  if mantissa < Nat.pow 2 52 then Float.ofBits mantissa.toUInt64
  else Float.ofBits ((exponent + 1075).toNat * Nat.pow 2 52 + (mantissa - Nat.pow 2 52)).toUInt64

/-- The binary number nearest to a quotient of positive integers; of two that are equally near, the
even one. -/
def quotient (a b : Nat) : Float :=
  if a = 0 then 0.0
  else
    let size : Int := (Nat.log2 a : Int) - Nat.log2 b
    -- the quotient lies between `2 ^ (size - 1)` and `2 ^ (size + 1)`
    let guess : Int := max (size - 53) (-1074)
    let scaled (e : Int) : Nat × Nat := (a * Nat.pow 2 (-e).toNat, b * Nat.pow 2 e.toNat)
    let (x, y) := scaled guess
    let exponent := if x / y < Nat.pow 2 53 then guess else guess + 1
    let (x, y) := scaled exponent
    let below := x / y
    let rest := x % y
    let mantissa :=
      if y < 2 * rest || (2 * rest = y && below % 2 = 1) then below + 1 else below
    let (mantissa, exponent) :=
      if mantissa = Nat.pow 2 53 then (Nat.pow 2 52, exponent + 1) else (mantissa, exponent)
    if 972 ≤ exponent then 1.0 / 0.0 else ofParts mantissa exponent

/-- The number nearest to `digits * 10 ^ exponent`. -/
def nearest (digits : Nat) (exponent : Int) : Float :=
  let size : Int := (Nat.toDigits 10 digits).length + exponent
  if digits = 0 then 0.0
  else if 400 < size then 1.0 / 0.0
  else if size < -400 then 0.0
  else quotient (digits * Nat.pow 10 exponent.toNat) (Nat.pow 10 (-exponent).toNat)

/-- The interval of the numbers that round to `mantissa * 2 ^ exponent`, in units of `2 ^ (exponent
- 2)`. -/
def roundingBounds (b : Binary) : Nat × Nat :=
  let low := if b.mantissa = Nat.pow 2 52 && b.exponent != -1074 then 4 * b.mantissa - 1
    else 4 * b.mantissa - 2
  (low, 4 * b.mantissa + 2)

def scaled (a : Nat) (e : Int) (c : Nat) (k : Int) : Nat × Nat :=
  (a * Nat.pow 2 e.toNat * Nat.pow 10 (-k).toNat, c * Nat.pow 10 k.toNat * Nat.pow 2 (-e).toNat)

def onGrid? (b : Binary) (k : Int) : Option Nat :=
  let e := b.exponent - 2
  let (value, unit) := scaled (4 * b.mantissa) e 1 k
  let below := value / unit
  let (low, high) := roundingBounds b
  let inside (c : Nat) : Bool :=
    let (l, x) := scaled low e c k
    let (h, y) := scaled high e c k
    if b.mantissa % 2 = 0 then l ≤ x && y ≤ h else l < x && y < h
  let rest := value - below * unit
  match inside below && below != 0, inside (below + 1) with
  | true, false => some below
  | false, true => some (below + 1)
  | true, true =>
    if 2 * rest < unit then some below
    else if unit < 2 * rest then some (below + 1)
    else if below % 2 = 0 then some below else some (below + 1)
  | false, false => none

def magnitude (b : Binary) : Int :=
  let bits : Int := (Nat.log2 b.mantissa : Int) + b.exponent
  let guess : Int := bits * 30103 / 100000 - 1
  let atLeast (k : Int) : Bool :=
    let (x, y) := scaled b.mantissa b.exponent 1 k
    y ≤ x
  ((List.range 4).map fun (n : Nat) => guess + n).foldl
    (fun best k => if atLeast k then k else best) guess

/-- The fewest digits that read back as a positive number, and the power of ten of the last one. -/
def shortest (b : Binary) : Nat × Int :=
  let top := magnitude b
  let grids := (List.range 18).map fun (n : Nat) => top - n
  match grids.findSome? fun k => (onGrid? b k).map fun digits => (digits, k) with
  | some found => found
  | none => (b.mantissa, 0)

def trimZeros : Nat → Nat → Int → Nat × Int
  | 0, digits, k => (digits, k)
  | fuel + 1, digits, k =>
    if digits != 0 && digits % 10 = 0 then trimZeros fuel (digits / 10) (k + 1) else (digits, k)

/-- How numbers are written: positionally from `10 ^ least` up to `10 ^ most`, else with an exponent
of at least two digits and its sign; a whole number keeps a zero behind the point. -/
structure Format where
  least : Int
  most : Int
  exponentDigits : Nat

def plain : Format := ⟨-4, 16, 2⟩

def padLeft (width : Nat) (s : String) : String :=
  String.ofList (List.replicate (width - s.length) '0') ++ s

def Format.write (f : Format) (digits : Nat) (k : Int) : String :=
  let text := toString digits
  let point : Int := text.length + k
  if f.least < point && point ≤ f.most then
    if 0 ≤ k then text ++ String.ofList (List.replicate k.toNat '0') ++ ".0"
    else if 0 < point then
      String.ofList (text.toList.take point.toNat) ++ "." ++
        String.ofList (text.toList.drop point.toNat)
    else "0." ++ String.ofList (List.replicate (-point).toNat '0') ++ text
  else
    let e := point - 1
    let head := String.ofList (text.toList.take 1)
    let tail := String.ofList (text.toList.drop 1)
    let mantissa := if tail.isEmpty then head else head ++ "." ++ tail
    mantissa ++ "e" ++ (if e < 0 then "-" else "+") ++
      padLeft f.exponentDigits (toString e.natAbs)

def render (x : Float) : String :=
  match Binary.ofFloat? x with
  | none => if x.isNaN then "nan" else if x < 0 then "-inf" else "inf"
  | some b =>
    let sign := if b.negative then "-" else ""
    if b.mantissa = 0 then sign ++ "0.0"
    else
      let (digits, k) := shortest b
      let (digits, k) := trimZeros 20 digits k
      sign ++ plain.write digits k

def digitGroups? : List Char → Option (List Char)
  | [] => some []
  | cs =>
    if (cs.splitOn '_').all fun g => !g.isEmpty && g.all Char.isDigit then
      some (cs.filter (· != '_'))
    else none

def toNat (cs : List Char) : Nat := cs.foldl (fun n c => 10 * n + (c.toNat - '0'.toNat)) 0

def signed? : List Char → Bool × List Char
  | '-' :: rest => (true, rest)
  | '+' :: rest => (false, rest)
  | rest => (false, rest)

def isDigitOrBar (c : Char) : Bool := c.isDigit || c == '_'

def exponent? : List Char → Option Int
  | [] => some 0
  | c :: rest => do
    guard (c == 'e' || c == 'E')
    let (negative, digits) := signed? rest
    guard (!digits.isEmpty)
    let digits ← digitGroups? digits
    let n := toNat digits
    return if negative then -(n : Int) else n

def unsigned? (cs : List Char) : Option Float := do
  let whole := cs.takeWhile isDigitOrBar
  let rest := cs.dropWhile isDigitOrBar
  let (fraction, rest) := match rest with
    | '.' :: more => (more.takeWhile isDigitOrBar, more.dropWhile isDigitOrBar)
    | _ => ([], rest)
  guard (!(whole.isEmpty && fraction.isEmpty))
  let whole ← digitGroups? whole
  let fraction ← digitGroups? fraction
  let exponent ← exponent? rest
  return nearest (toNat (whole ++ fraction)) (exponent - fraction.length)

def isBlank (c : Char) : Bool :=
  c == ' ' || ('\t' ≤ c && c ≤ '\r') || ('\x1c' ≤ c && c ≤ '\x1f') || c == '\u0085' ||
  c == '\u00a0' || c == '\u1680' || ('\u2000' ≤ c && c ≤ '\u200a') || c == '\u2028' ||
  c == '\u2029' || c == '\u202f' || c == '\u205f' || c == '\u3000'

def strip (cs : List Char) : List Char :=
  ((cs.dropWhile isBlank).reverse.dropWhile isBlank).reverse

/-- The number that a text stands for. -/
def read? (text : String) : Option Float := do
  let (negative, cs) := signed? ((strip text.toList).map Digit.common)
  let value ← match (String.ofList cs).toLower with
    | "inf" | "infinity" => some (1.0 / 0.0)
    | "nan" => some (0.0 / 0.0)
    | _ => unsigned? cs
  return if negative then -value else value

def readInt? (text : String) : Option Int := do
  let (negative, cs) := signed? ((strip text.toList).map Digit.common)
  guard (!cs.isEmpty)
  let digits ← digitGroups? cs
  return if negative then -(toNat digits : Int) else toNat digits

end BlockScript.Decimal
