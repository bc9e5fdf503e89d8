import BlockScript.Text.CaseTable

/-!
Texts in capital and in small letters. A letter can become several characters.
-/

namespace BlockScript.Case

def Run.apply? (r : CaseTable.Run) (n : Nat) : Option Char :=
  if r.first ≤ n && n ≤ r.last && (n - r.first) % r.stride = 0 then
    some (Char.ofNat (n + r.shift).toNat)
  else none

/-- What stands in the place of a character, by a table of single characters and one of several. -/
def change (runs : List CaseTable.Run) (long : List (Nat × List Nat)) (c : Char) : List Char :=
  match long.lookup c.toNat with
  | some cs => cs.map Char.ofNat
  | none => [(runs.findSome? fun r => Run.apply? r c.toNat).getD c]

def inStretches : List Nat → Nat → Bool
  | outside :: inside :: rest, n =>
    outside ≤ n && (n < outside + inside || inStretches rest (n - (outside + inside)))
  | _, _ => false

def isCased (c : Char) : Bool := inStretches CaseTable.cased c.toNat

def isIgnorable (c : Char) : Bool := inStretches CaseTable.ignorable c.toNat

def capital (c : Char) : List Char :=
  if c.toNat < 128 then [c.toUpper] else change CaseTable.capitals CaseTable.longCapitals c

def small (c : Char) : List Char :=
  if c.toNat < 128 then [c.toLower] else change CaseTable.smalls CaseTable.longSmalls c

def touchesLetter (cs : List Char) : Bool :=
  match cs.dropWhile isIgnorable with
  | c :: _ => isCased c
  | [] => false

def sigma : Char := 'Σ'

def smallsBehind (before : List Char) : List Char → List Char
  | [] => []
  | c :: rest =>
    let here :=
      if c = sigma then
        [if touchesLetter before && !touchesLetter rest then 'ς' else 'σ']
      else small c
    here ++ smallsBehind (c :: before) rest

def toUpper (s : String) : String := String.ofList (s.toList.flatMap capital)

def toLower (s : String) : String := String.ofList (smallsBehind [] s.toList)

def fold (c : Char) : Char :=
  match small c with
  | [d] => d
  | _ => c

end BlockScript.Case
