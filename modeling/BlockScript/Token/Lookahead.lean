/-!
Looking around in a text. A place is given by the character that comes next there; an offset counts
from it, one being that character and minus one the character before it.
-/

namespace BlockScript

inductive Glance where
  /-- There is no character at offset zero. -/
  | between
  | character (value : Char)
  | outside
deriving DecidableEq, Repr

def glance (text : Array Char) (place offset : Int) : Glance :=
  if offset = 0 then .between
  else
    let i := min place text.size + if offset < 0 then offset else offset - 1
    if 0 ≤ i then (text[i.toNat]?).elim .outside .character else .outside

end BlockScript
