import BlockScript.Parse
import BlockScript.Token.Lexeme

/-!
Scripts. A text is scanned to its tokens, and these are parsed. A place where no lexeme begins is a
fault; scanning goes on behind it.
-/

namespace BlockScript

structure Scan where
  tokens : List Token
  faults : List Position
  finish : Position

namespace Scan

def kindOf (kind : Lexeme.Kind) (capitals : List Char) : Option Terminal :=
  match kind with
  | .token t => some t
  | .word => some (.ofWord (String.ofList capitals))
  | .blank => none

def scanFrom (text : List Char) (offset : Nat) (position : Position) : Scan :=
  match text with
  | [] => ⟨[], [], position⟩
  | c :: rest =>
    let capitals := (c :: rest).map Char.toUpper
    let found := Lexeme.longest? capitals
    let length := (found.map (·.2)).getD (Lexeme.skipped capitals)
    let piece := c :: rest.take (length - 1)
    let later := scanFrom (rest.drop (length - 1)) (offset + piece.length)
      (piece.foldl Position.after position)
    match found with
    | none => { later with faults := position :: later.faults }
    | some (kind, _) =>
      match kindOf kind (piece.map Char.toUpper) with
      | none => later
      | some terminal =>
        let token : Token :=
          { kind := terminal, text := String.ofList piece, position,
            start := offset, stop := offset + piece.length - 1 }
        { later with tokens := token :: later.tokens }
termination_by text.length
decreasing_by
  simp only [List.length_drop, List.length_cons]
  omega

end Scan

/-- The tokens of a text. Words and marks are recognised in any letter case; the tokens keep the
case of the text. -/
def scan (text : String) : Scan := Scan.scanFrom text.toList 0 {}

structure Script where
  text : String
  tree : Tree Token

inductive Fault where
  | encoding
  | lexical (place : Position)
  | syntactic (place : Position)
deriving DecidableEq, Repr

namespace Script

def encodable (text : String) : Bool := text.toList.all (·.toNat < 128)

def endToken (text : String) (finish : Position) : Token :=
  { kind := .EOF, text := "<EOF>", position := finish, start := text.length,
    stop := text.length - 1 }

def tokens (text : String) : Except Fault Scan :=
  if !encodable text then .error .encoding
  else
    let scanned := scan text
    match scanned.faults with
    | place :: _ => .error (.lexical place)
    | [] => .ok scanned

def read (text : String) : Except Fault Script := do
  let scanned ← tokens text
  let visible := (scanned.tokens.filter Token.visible).toArray
  let token (i : Nat) := visible.getD i (endToken text scanned.finish)
  match parse (visible.map (·.kind)) with
  | .error unexpected => .error (.syntactic (token unexpected.index).position)
  | .ok tree => .ok ⟨text, tree.map token⟩

end Script
end BlockScript
