/-!
Quoted texts. A text is written between single quotes, or between double quotes if it holds single
ones only; a backslash, the quote in use and what cannot be shown are escaped.
-/

namespace BlockScript.Quoted

def mark (s : String) : Char :=
  if s.toList.contains '\'' && !s.toList.contains '"' then '"' else '\''

def hexDigits (width n : Nat) : List Char :=
  let digits := Nat.toDigits 16 n
  List.replicate (width - digits.length) '0' ++ digits

def isControl (c : Char) : Bool := c.toNat < 32 || (127 ≤ c.toNat && c.toNat < 161) || c.toNat = 173

def escape (mark c : Char) : List Char :=
  if c = '\\' || c = mark then ['\\', c]
  else if c = '\n' then ['\\', 'n']
  else if c = '\r' then ['\\', 'r']
  else if c = '\t' then ['\\', 't']
  else if isControl c then '\\' :: 'x' :: hexDigits 2 c.toNat
  else [c]

def write (s : String) : String :=
  let m := mark s
  String.ofList (m :: s.toList.flatMap (escape m) ++ [m])

end BlockScript.Quoted
