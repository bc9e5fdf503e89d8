import BlockScript.Decimal

/-!
Data notation: numbers, quoted texts, truth values, nothing, and lists, tuples and dictionaries of
them.
-/

namespace BlockScript

inductive Data where
  | none
  | bool (value : Bool)
  | int (value : Int)
  | float (value : Float)
  | text (value : String)
  | list (items : List Data)
  | tuple (items : List Data)
  | dict (entries : List (Data × Data))
deriving Inhabited

namespace Data

inductive Fault where
  /-- The text is no expression. -/
  | malformed
  /-- The expression is not data. -/
  | notData
  /-- A key of a dictionary can change. -/
  | mutableKey
deriving DecidableEq, Repr

inductive Token where
  | constant (value : Data)
  | name (text : String)
  | mark (text : String)
deriving Inhabited

inductive Term where
  | constant (value : Data)
  | list (items : List Term)
  | tuple (items : List Term)
  | dict (entries : List (Term × Term))
  | negative (operand : Term)
  | positive (operand : Term)
  | other
deriving Inhabited

def isNameStart (c : Char) : Bool := c.isAlpha || c == '_' || 127 < c.toNat

def isNamePart (c : Char) : Bool := isNameStart c || c.isDigit

def digitValue? (base : Nat) (c : Char) : Option Nat :=
  let v := if c.isDigit then c.toNat - '0'.toNat
    else if 'a' ≤ c.toLower && c.toLower ≤ 'f' then c.toLower.toNat - 'a'.toNat + 10 else base
  if v < base then some v else Option.none

def based? (base : Nat) (cs : List Char) : Option Nat :=
  let groups := (String.ofList cs).splitOn "_"
  -- one underscore may stand between the mark of the base and the first digit
  let groups := match groups with
    | "" :: rest => rest
    | groups => groups
  if !groups.isEmpty && groups.all (fun g => !g.isEmpty) then
    (cs.filter (· != '_')).foldlM (fun n c => (digitValue? base c).map (base * n + ·)) 0
  else Option.none

/-- An integer without a sign, in decimal notation or behind the mark of another base. -/
def integer? (cs : List Char) : Option Nat :=
  match cs with
  | '0' :: 'x' :: rest | '0' :: 'X' :: rest => based? 16 rest
  | '0' :: 'o' :: rest | '0' :: 'O' :: rest => based? 8 rest
  | '0' :: 'b' :: rest | '0' :: 'B' :: rest => based? 2 rest
  | _ => do
    let digits ← Decimal.digitGroups? cs
    guard (!digits.isEmpty)
    let n := Decimal.toNat digits
    guard (digits.head? != some '0' || n = 0)
    return n

def numberLength : Bool → Bool → List Char → Nat
  | hex, afterE, c :: rest =>
    if isNamePart c || c == '.' then
      1 + numberLength hex (!hex && (c == 'e' || c == 'E')) rest
    else if afterE && (c == '+' || c == '-') then
      match rest with
      | d :: _ => if d.isDigit then 1 + numberLength hex false rest else 0
      | [] => 0
    else 0
  | _, _, [] => 0

def numeral? (cs : List Char) : Option Data :=
  match integer? cs with
  | some n => some (.int n)
  | Option.none =>
    if cs.any (fun c => c == '.' || c == 'e' || c == 'E') then (Decimal.unsigned? cs).map .float
    else Option.none

def hexOf? (cs : List Char) : Option Nat :=
  cs.foldlM (fun n c => (digitValue? 16 c).map (16 * n + ·)) 0

def coded? (width : Nat) (cs : List Char) : Option (Char × List Char) := do
  let digits := cs.take width
  guard (digits.length = width)
  let n ← hexOf? digits
  guard (n < 0x110000)
  return (Char.ofNat n, cs.drop width)

def isOctal (c : Char) : Bool := '0' ≤ c && c ≤ '7'

def quoted? (raw long : Bool) (mark : Char) :
    Nat → List Char → List Char → Option (List Char × List Char)
  | 0, _, _ => Option.none
  | steps + 1, done, cs =>
    let go := quoted? raw long mark steps
    match cs with
    | [] => Option.none
    | '\\' :: rest =>
      if raw then
        match rest with
        | c :: rest => go (c :: '\\' :: done) rest
        | [] => Option.none
      else
        match rest with
        | [] => Option.none
        | '\n' :: rest => go done rest
        | 'n' :: rest => go ('\n' :: done) rest
        | 't' :: rest => go ('\t' :: done) rest
        | 'r' :: rest => go ('\r' :: done) rest
        | 'a' :: rest => go ('\x07' :: done) rest
        | 'b' :: rest => go ('\x08' :: done) rest
        | 'f' :: rest => go ('\x0c' :: done) rest
        | 'v' :: rest => go ('\x0b' :: done) rest
        | 'x' :: rest => do let (c, rest) ← coded? 2 rest; go (c :: done) rest
        | 'u' :: rest => do let (c, rest) ← coded? 4 rest; go (c :: done) rest
        | 'U' :: rest => do let (c, rest) ← coded? 8 rest; go (c :: done) rest
        | c :: more =>
          if c == '\\' || c == '\'' || c == '"' then go (c :: done) more
          else if isOctal c then
            let digits := (rest.take 3).takeWhile isOctal
            let n := digits.foldl (fun n c => 8 * n + (c.toNat - '0'.toNat)) 0
            go (Char.ofNat n :: done) (rest.drop digits.length)
          else go (c :: '\\' :: done) more
    | c :: rest =>
      if c == mark then
        if !long then some (done.reverse, rest)
        else match rest with
          | d :: e :: rest' =>
            if d == mark && e == mark then some (done.reverse, rest') else go (c :: done) rest
          | _ => go (c :: done) rest
      else if c == '\n' && !long then Option.none
      else go (c :: done) rest

/-- A quoted text behind its letters, which say how it is read. -/
def string? (letters : List Char) (cs : List Char) : Option (Token × List Char) := do
  let letters := letters.map Char.toLower
  guard (["", "r", "u", "b", "f", "br", "rb", "fr", "rf"].contains (String.ofList letters))
  let (mark, long, rest) ← match cs with
    | '\'' :: '\'' :: '\'' :: rest => some ('\'', true, rest)
    | '"' :: '"' :: '"' :: rest => some ('"', true, rest)
    | '\'' :: rest => some ('\'', false, rest)
    | '"' :: rest => some ('"', false, rest)
    | _ => Option.none
  let (body, rest) ← quoted? (letters.contains 'r') long mark (rest.length + 1) [] rest
  if letters.contains 'b' || letters.contains 'f' then return (.name "", rest)
  else return (.constant (.text (String.ofList body)), rest)

def marks : List String :=
  ["**", "//", "<<", ">>", "<=", ">=", "==", "!=", "+", "-", "*", "/", "%", "&", "|", "^", "~", "@",
    "<", ">", "(", ")", "[", "]", "\x7b", "\x7d", ",", ":", ".", "="]

def tokens : Nat → Nat → List Char → Option (List Token)
  | _, _, [] => some []
  | 0, _, _ => Option.none
  | steps + 1, depth, c :: rest =>
    if c == ' ' || c == '\t' || c == '\x0c' then tokens steps depth rest
    else if c == '\n' || c == '\r' then
      if depth = 0 then (tokens steps depth rest).map (.mark "\n" :: ·) else tokens steps depth rest
    else if c == '#' then tokens steps depth (rest.dropWhile (· != '\n'))
    else if c.isDigit || (c == '.' && (rest.head?.map Char.isDigit).getD false) then
      let hex := c == '0' && (rest.head? == some 'x' || rest.head? == some 'X')
      let length := numberLength hex false (c :: rest)
      match numeral? ((c :: rest).take length) with
      | some value =>
        (tokens steps depth (rest.drop (length - 1))).map (.constant value :: ·)
      | Option.none => Option.none
    else if c == '\'' || c == '"' then
      match string? [] (c :: rest) with
      | some (token, rest) => (tokens steps depth rest).map (token :: ·)
      | Option.none => Option.none
    else if isNameStart c then
      let word := c :: rest.takeWhile isNamePart
      let rest := rest.dropWhile isNamePart
      let quote := rest.head? == some '\'' || rest.head? == some '"'
      if quote then
        match string? word rest with
        | some (token, rest) => (tokens steps depth rest).map (token :: ·)
        | Option.none => Option.none
      else (tokens steps depth rest).map (.name (String.ofList word) :: ·)
    else
      match marks.find? fun m => m.toList.isPrefixOf (c :: rest) with
      | some m =>
        let depth := if ["(", "[", "\x7b"].contains m then depth + 1
          else if [")", "]", "\x7d"].contains m then depth - 1 else depth
        (tokens steps depth (rest.drop (m.length - 1))).map (.mark m :: ·)
      | Option.none => Option.none

def reserved : List String :=
  ["False", "None", "True", "and", "as", "assert", "async", "await", "break", "class", "continue",
    "def", "del", "elif", "else", "except", "finally", "for", "from", "global", "if", "import",
    "in", "is", "lambda", "nonlocal", "not", "or", "pass", "raise", "return", "try", "while", "with",
    "yield"]

def isBinary : List Token → Option (List Token)
  | .name "not" :: .name "in" :: rest => some rest
  | .name "is" :: .name "not" :: rest => some rest
  | .name w :: rest => if ["and", "or", "in", "is"].contains w then some rest else Option.none
  | .mark m :: rest =>
    if ["**", "//", "<<", ">>", "<=", ">=", "==", "!=", "+", "-", "*", "/", "%", "&", "|", "^", "@",
      "<", ">"].contains m then some rest else Option.none
  | _ => Option.none

mutual
def expression : Nat → List Token → Option (Term × List Token)
  | 0, _ => Option.none
  | steps + 1, ts => do
    let (first, rest) ← operand steps ts
    match isBinary rest with
    | some more =>
      let (_, rest) ← expression steps more
      return (.other, rest)
    | Option.none =>
      match rest with
      | .name "if" :: more =>
        let (_, rest) ← expression steps more
        match rest with
        | .name "else" :: more =>
          let (_, rest) ← expression steps more
          return (.other, rest)
        | _ => Option.none
      | _ => return (first, rest)

def operand : Nat → List Token → Option (Term × List Token)
  | 0, _ => Option.none
  | steps + 1, ts => do
    match ts with
    | .mark "-" :: rest =>
      let (t, rest) ← operand steps rest
      return (.negative t, rest)
    | .mark "+" :: rest =>
      let (t, rest) ← operand steps rest
      return (.positive t, rest)
    | .mark "~" :: rest | .name "not" :: rest =>
      let (_, rest) ← operand steps rest
      return (.other, rest)
    | _ =>
      let (t, rest) ← atom steps ts
      trailers steps t rest

def trailers : Nat → Term → List Token → Option (Term × List Token)
  | 0, _, _ => Option.none
  | steps + 1, t, ts => do
    match ts with
    | .mark "." :: .name _ :: rest => trailers steps .other rest
    | .mark "(" :: rest =>
      let (_, rest) ← items steps ")" rest
      trailers steps .other rest
    | .mark "[" :: rest =>
      let (inside, rest) ← items steps "]" rest
      guard (!inside.isEmpty)
      trailers steps .other rest
    | _ => return (t, ts)

def atom : Nat → List Token → Option (Term × List Token)
  | 0, _ => Option.none
  | steps + 1, ts => do
    match ts with
    | .constant (.text s) :: .constant (.text t) :: rest =>
      atom steps (.constant (.text (s ++ t)) :: rest)
    | .constant value :: rest => return (.constant value, rest)
    | .name "None" :: rest => return (.constant .none, rest)
    | .name "True" :: rest => return (.constant (.bool true), rest)
    | .name "False" :: rest => return (.constant (.bool false), rest)
    | .name w :: rest => if reserved.contains w then Option.none else return (.other, rest)
    | .mark "[" :: rest =>
      let (inside, rest) ← items steps "]" rest
      return (.list inside, rest)
    | .mark "(" :: .mark ")" :: rest => return (.tuple [], rest)
    | .mark "(" :: rest =>
      let (first, rest) ← expression steps rest
      match rest with
      | .mark ")" :: rest => return (first, rest)
      | .mark "," :: rest =>
        let (others, rest) ← items steps ")" rest
        return (.tuple (first :: others), rest)
      | _ => Option.none
    | .mark "\x7b" :: .mark "\x7d" :: rest => return (.dict [], rest)
    | .mark "\x7b" :: rest =>
      let (first, rest) ← expression steps rest
      match rest with
      | .mark ":" :: rest =>
        let (value, rest) ← expression steps rest
        let (others, rest) ← entries steps rest
        return (.dict ((first, value) :: others), rest)
      | .mark "\x7d" :: rest => return (.other, rest)
      | .mark "," :: rest =>
        let (_, rest) ← items steps "\x7d" rest
        return (.other, rest)
      | _ => Option.none
    | _ => Option.none

def items : Nat → String → List Token → Option (List Term × List Token)
  | 0, _, _ => Option.none
  | steps + 1, close, ts => do
    match ts with
    | .mark m :: rest => if m == close then return ([], rest) else more steps close ts
    | _ => more steps close ts

def more : Nat → String → List Token → Option (List Term × List Token)
  | 0, _, _ => Option.none
  | steps + 1, close, ts => do
    let (first, rest) ← expression steps ts
    match rest with
    | .mark "," :: rest =>
      let (others, rest) ← items steps close rest
      return (first :: others, rest)
    | .mark m :: rest => if m == close then return ([first], rest) else Option.none
    | _ => Option.none

def entries : Nat → List Token → Option (List (Term × Term) × List Token)
  | 0, _ => Option.none
  | steps + 1, ts => do
    match ts with
    | .mark "\x7d" :: rest | .mark "," :: .mark "\x7d" :: rest => return ([], rest)
    | .mark "," :: rest =>
      let (key, rest) ← expression steps rest
      match rest with
      | .mark ":" :: rest =>
        let (value, rest) ← expression steps rest
        let (others, rest) ← entries steps rest
        return ((key, value) :: others, rest)
      | _ => Option.none
    | _ => Option.none
end

def whole (ts : List Token) : Option Term := do
  let steps := 6 * ts.length + 6
  let isBreak : Token → Bool := fun
    | .mark "\n" => true
    | _ => false
  let ts := ((ts.dropWhile isBreak).reverse.dropWhile isBreak).reverse
  let (first, rest) ← expression steps ts
  match rest with
  | [] => return first
  | .mark "," :: rest =>
    let (others, rest) ← items steps ")" (rest ++ [.mark ")"])
    guard rest.isEmpty
    return .tuple (first :: others)
  | _ => Option.none

def unsigned? : Term → Option Data
  | .constant (.int n) => some (.int n)
  | .constant (.float x) => some (.float x)
  | _ => Option.none

mutual
def isMutable : Data → Bool
  | .list _ | .dict _ => true
  | .tuple items => anyMutable items
  | _ => false

def anyMutable : List Data → Bool
  | [] => false
  | d :: rest => isMutable d || anyMutable rest
end

mutual
def ofTerm : Term → Except Fault Data
  | .constant value => .ok value
  | .list items => do return .list (← ofTerms items)
  | .tuple items => do return .tuple (← ofTerms items)
  | .dict entries => do return .dict (← ofEntries entries)
  | .negative t =>
    match unsigned? t with
    | some (.int n) => .ok (.int (-n))
    | some (.float x) => .ok (.float (-x))
    | _ => .error .notData
  | .positive t =>
    match unsigned? t with
    | some d => .ok d
    | Option.none => .error .notData
  | .other => .error .notData

def ofTerms : List Term → Except Fault (List Data)
  | [] => .ok []
  | t :: rest => do
    let d ← ofTerm t
    return d :: (← ofTerms rest)

def ofEntries : List (Term × Term) → Except Fault (List (Data × Data))
  | [] => .ok []
  | (k, v) :: rest => do
    let key ← ofTerm k
    let value ← ofTerm v
    if isMutable key then throw .mutableKey
    return (key, value) :: (← ofEntries rest)
end

def read (text : String) : Except Fault Data :=
  let cs := text.toList.dropWhile fun c => c == ' ' || c == '\t'
  match (tokens (cs.length + 1) 0 cs).bind whole with
  | some t => ofTerm t
  | Option.none => .error .malformed

end Data
end BlockScript
