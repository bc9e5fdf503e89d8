import BlockScript.Token

namespace BlockScript.Lexeme

abbrev Ahead := List Char

def isWordChar (c : Char) : Bool :=
  c.isUpper || c.isDigit || c == '_' || c == '$' || c == '#'

def word? : Ahead → Option Nat
  | c :: rest => if c.isUpper then some (1 + (rest.takeWhile isWordChar).length) else none
  | [] => none

def digits (text : Ahead) : Nat := (text.takeWhile Char.isDigit).length

def decimal? (text : Ahead) : Option Nat :=
  let whole := digits text
  match text.drop whole with
  | '.' :: rest =>
    if digits rest = 0 then (if whole = 0 then none else some whole)
    else some (whole + 1 + digits rest)
  | _ => if whole = 0 then none else some whole

def integer? (text : Ahead) : Option Nat :=
  if digits text = 0 then none else some (digits text)

def exponent : Ahead → Nat
  | 'E' :: '+' :: rest | 'E' :: '-' :: rest => ((decimal? rest).map (· + 2)).getD 0
  | 'E' :: rest => ((decimal? rest).map (· + 1)).getD 0
  | _ => 0

def suffix : Ahead → Nat
  | 'D' :: _ | 'F' :: _ => 1
  | _ => 0

def number? (text : Ahead) : Option Nat := do
  let mantissa ← decimal? text
  let scaled := mantissa + exponent (text.drop mantissa)
  return scaled + suffix (text.drop scaled)

/-- The length of the rest of a quoted text and its closing quote. -/
def closing? : Ahead → Option Nat
  | [] => none
  | '\'' :: '\'' :: rest => some (((closing? rest).map (· + 2)).getD 1)
  | '\'' :: _ => some 1
  | '\r' :: '\n' :: rest => (closing? rest).map (· + 2)
  | '\r' :: _ => none
  | _ :: rest => (closing? rest).map (· + 1)

def quoted? : Ahead → Option Nat
  | '\'' :: rest => (closing? rest).map (· + 1)
  | _ => none

def nationalQuoted? : Ahead → Option Nat
  | 'N' :: rest => (quoted? rest).map (· + 1)
  | _ => none

def quotedRun? (allowed : Char → Bool) : Ahead → Option Nat
  | '\'' :: rest =>
    let run := (rest.takeWhile allowed).length
    match rest.drop run with
    | '\'' :: _ => some (run + 2)
    | _ => none
  | _ => none

def quotedRuns (allowed : Char → Bool) : Nat → Ahead → Nat
  | 0, _ => 0
  | fuel + 1, text =>
    match quotedRun? allowed text with
    | some n => n + quotedRuns allowed fuel (text.drop n)
    | none => 0

def based? (letter : Char) (allowed : Char → Bool) : Ahead → Option Nat
  | c :: rest =>
    let runs := quotedRuns allowed rest.length rest
    if c = letter && 0 < runs then some (1 + runs) else none
  | [] => none

def through? (a b : Char) : Ahead → Option Nat
  | [] | [_] => none
  | x :: y :: rest =>
    if x = a && y = b then some 2 else (through? a b (y :: rest)).map (· + 1)

def bracketed? : Ahead → Option Nat
  | 'Q' :: '\'' :: '<' :: rest => (through? '>' '\'' rest).map (· + 3)
  | 'Q' :: '\'' :: '\x7b' :: rest => (through? '\x7d' '\'' rest).map (· + 3)
  | 'Q' :: '\'' :: '[' :: rest => (through? ']' '\'' rest).map (· + 3)
  | 'Q' :: '\'' :: '(' :: rest => (through? ')' '\'' rest).map (· + 3)
  | _ => none

def delimiter? : Ahead → Option Nat
  | [] => none
  | '"' :: '"' :: rest => some (((delimiter? rest).map (· + 2)).getD 1)
  | '"' :: _ => some 1
  | '\r' :: _ | '\n' :: _ => none
  | _ :: rest => (delimiter? rest).map (· + 1)

def delimited? : Ahead → Option Nat
  | '"' :: '"' :: '"' :: rest => (delimiter? rest).map (· + 3)
  | '"' :: '"' :: _ => none
  | '"' :: rest => (delimiter? rest).map (· + 1)
  | _ => none

def isBindChar (c : Char) : Bool := c.isUpper || c.isDigit || c == '_'

def bind? : Ahead → Option Nat
  | '?' :: _ => some 1
  | ':' :: '"' :: rest => (delimited? ('"' :: rest)).map (· + 1)
  | ':' :: c :: rest =>
    if c.isUpper then some (2 + (rest.takeWhile isBindChar).length)
    else if c.isDigit then some (2 + digits rest)
    else none
  | _ => none

def isLineEnd (c : Char) : Bool := c == '\r' || c == '\n'

/-- The length up to the end of the line and with it. -/
def line? (text : Ahead) : Option Nat :=
  let run := (text.takeWhile (!isLineEnd ·)).length
  match text.drop run with
  | [] => some run
  | '\n' :: _ => some (run + 1)
  | '\r' :: '\n' :: _ => some (run + 2)
  | _ => none

def lineComment? : Ahead → Option Nat
  | '-' :: '-' :: rest => (line? rest).map (· + 2)
  | _ => none

def blockComment? : Ahead → Option Nat
  | '/' :: '*' :: rest => (through? '*' '/' rest).map (· + 2)
  | _ => none

def startCommand? : Ahead → Option Nat
  | '@' :: '@' :: rest => (line? rest).map (· + 2)
  | _ => none

def unequal? : Ahead → Option Nat
  | '!' :: '=' :: _ | '<' :: '>' :: _ | '^' :: '=' :: _ | '~' :: '=' :: _ => some 2
  | _ => none

def isBlank (c : Char) : Bool := c == ' ' || c == '\t' || isLineEnd c

def blanks? (text : Ahead) : Option Nat :=
  let run := (text.takeWhile isBlank).length
  if run = 0 then none else some run

def mark? (mark : String) (text : Ahead) : Option Nat :=
  if mark.toList.isPrefixOf text then some mark.length else none

inductive Kind where
  | token (kind : Terminal)
  | word
  | blank

def classes : List (Kind × (Ahead → Option Nat)) :=
  [(.token .NATIONAL_CHAR_STRING_LIT, nationalQuoted?),
    (.token .BIT_STRING_LIT, based? 'B' fun c => c == '0' || c == '1'),
    (.token .HEX_STRING_LIT, based? 'X' fun c => c.isDigit || ('A' ≤ c && c ≤ 'F')),
    (.token .UNSIGNED_INTEGER, integer?),
    (.token .APPROXIMATE_NUM_LIT, number?),
    (.token .CHAR_STRING, quoted?),
    (.token .CHAR_STRING, bracketed?),
    (.token .DELIMITED_ID, delimited?),
    (.token .BINDVAR, bind?),
    (.token .NOT_EQUAL_OP, unequal?),
    (.blank, blanks?),
    (.token .SINGLE_LINE_COMMENT, lineComment?),
    (.token .MULTI_LINE_COMMENT, blockComment?),
    (.token .START_CMD, startCommand?),
    (.word, word?)] ++
  Terminal.marks.map fun (text, kind) => (.token kind, mark? text)

def longest? (text : Ahead) : Option (Kind × Nat) :=
  classes.foldl
    (fun best (kind, length?) =>
      match length? text, best with
      | none, _ => best
      | some n, none => some (kind, n)
      | some n, some (_, m) => if m < n then some (kind, n) else best)
    none

/-- How much is passed over of an unfinished quoted text: all up to a carriage return that no line
feed follows, and the character that shows it. -/
def unclosed : Ahead → Nat
  | [] => 0
  | '\r' :: '\n' :: rest => 2 + unclosed rest
  | ['\r'] => 1
  | '\r' :: _ => 2
  | _ :: rest => 1 + unclosed rest

def undelimited : Ahead → Nat
  | [] => 0
  | '"' :: '"' :: rest => 2 + undelimited rest
  | ['"'] => 1
  | '"' :: _ => 2
  | c :: rest => if isLineEnd c then 1 else 1 + undelimited rest

def skipped : Ahead → Nat
  | '\'' :: rest => 1 + unclosed rest
  | '"' :: rest => 1 + undelimited rest
  | _ => 1

end BlockScript.Lexeme
