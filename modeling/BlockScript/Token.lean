import BlockScript.Terminal

namespace BlockScript

structure Position where
  line : Nat := 1
  column : Nat := 0
deriving DecidableEq, Inhabited, Repr

namespace Position

def after (p : Position) (c : Char) : Position :=
  if c = '\n' then ⟨p.line + 1, 0⟩ else ⟨p.line, p.column + 1⟩

end Position

structure Token where
  kind : Terminal
  text : String
  position : Position
  /-- Offset of the first character. -/
  start : Nat
  /-- Offset of the last character. -/
  stop : Nat
deriving Inhabited

namespace Token

def visible (t : Token) : Bool := !t.kind.hidden

end Token
end BlockScript
