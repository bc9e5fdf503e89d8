/-!
Slices of texts by offsets. A negative offset counts from the end, and an offset outside the text is
moved to its nearer end.
-/

namespace BlockScript.Slice

def place (length : Nat) (offset : Int) : Nat :=
  if offset < 0 then (offset + length).toNat else min offset.toNat length

def between (cs : List α) (start stop : Int) : List α :=
  let i := place cs.length start
  let j := place cs.length stop
  (cs.drop i).take (j - i)

def upTo (cs : List α) (stop : Int) : List α := cs.take (place cs.length stop)

def since (cs : List α) (start : Int) : List α := cs.drop (place cs.length start)

def slot? (length : Nat) (offset : Int) : Option Nat :=
  let i := if offset < 0 then offset + length else offset
  if 0 ≤ i && i < length then some i.toNat else none

end BlockScript.Slice
