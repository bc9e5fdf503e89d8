import BlockScript.Text.Case

/-!
Patterns for query texts: literal characters in either case, any character, classes of characters,
the ends of the text, repetition, alternatives and groups.
-/

namespace BlockScript

inductive CharClass where
  | between (low high : Char)
  | digit | blank | word
  | outside (c : CharClass)
deriving Inhabited

inductive Pattern where
  | empty
  | char (c : Char)
  /-- Any character but the end of a line. -/
  | any
  | oneOf (classes : List CharClass) (negated : Bool)
  | atStart
  | atEnd
  /-- The end of the text itself. -/
  | atVeryEnd
  | wordBoundary (negated : Bool)
  | seq (first second : Pattern)
  | alt (first second : Pattern)
  /-- At least `least` times, and at most `most` times if that is given. -/
  | loop (p : Pattern) (least : Nat) (most : Option Nat)
deriving Inhabited

namespace CharClass

def isWord (c : Char) : Bool :=
  c.isAlphanum || c == '_' || (127 < c.toNat && Case.isCased c)

def isBlank (c : Char) : Bool :=
  c == ' ' || ('\t' ≤ c && c ≤ '\r') || ('\x1c' ≤ c && c ≤ '\x1f')

def contains (c : Char) : CharClass → Bool
  | between low high =>
    (low ≤ c && c ≤ high) ||
      (low ≤ Case.fold c && Case.fold c ≤ high) ||
      (Case.capital c).any fun d => low ≤ d && d ≤ high
  | digit => c.isDigit
  | blank => isBlank c
  | word => isWord c
  | outside k => !k.contains c

end CharClass

namespace Pattern

inductive Fault where
  | unclosedClass | unclosedGroup | unopenedGroup | nothingToRepeat | badEscape | badRange
deriving DecidableEq, Repr

def escape? : Char → Option Pattern
  | 'd' => some (.oneOf [.digit] false)
  | 'D' => some (.oneOf [.digit] true)
  | 's' => some (.oneOf [.blank] false)
  | 'S' => some (.oneOf [.blank] true)
  | 'w' => some (.oneOf [.word] false)
  | 'W' => some (.oneOf [.word] true)
  | 'b' => some (.wordBoundary false)
  | 'B' => some (.wordBoundary true)
  | 'A' => some .atStart
  | 'Z' => some .atVeryEnd
  | 'n' => some (.char '\n')
  | 't' => some (.char '\t')
  | 'r' => some (.char '\r')
  | 'f' => some (.char '\x0c')
  | 'v' => some (.char '\x0b')
  | 'a' => some (.char '\x07')
  | c => if c.isAlphanum then none else some (.char c)

inductive Member where
  | char (c : Char)
  | shared (k : CharClass)

def classEscape? : Char → Option Member
  | 'd' => some (.shared .digit)
  | 'D' => some (.shared (.outside .digit))
  | 's' => some (.shared .blank)
  | 'S' => some (.shared (.outside .blank))
  | 'w' => some (.shared .word)
  | 'W' => some (.shared (.outside .word))
  | 'n' => some (.char '\n')
  | 't' => some (.char '\t')
  | 'r' => some (.char '\r')
  | 'f' => some (.char '\x0c')
  | 'v' => some (.char '\x0b')
  | 'a' => some (.char '\x07')
  | 'b' => some (.char '\x08')
  | c => if c.isAlphanum then none else some (.char c)

def member (cs : List Char) : Except Fault (Member × List Char) :=
  match cs with
  | [] => .error .unclosedClass
  | '\\' :: [] => .error .badEscape
  | '\\' :: c :: rest =>
    match classEscape? c with
    | some m => .ok (m, rest)
    | none => .error .badEscape
  | c :: rest => .ok (.char c, rest)

def classMembers :
    Nat → Bool → List CharClass → List Char → Except Fault (List CharClass × List Char)
  | 0, _, _, _ => .error .unclosedClass
  | _, false, found, ']' :: rest => .ok (found.reverse, rest)
  | steps + 1, _, found, cs => do
    let (low, rest) ← member cs
    match low, rest with
    | .shared k, rest => classMembers steps false (k :: found) rest
    | .char low, '-' :: ']' :: rest =>
      .ok ((.between '-' '-' :: .between low low :: found).reverse, rest)
    | .char low, '-' :: more =>
      match ← member more with
      | (.char high, rest) =>
        if high < low then .error .badRange
        else classMembers steps false (.between low high :: found) rest
      | (.shared _, _) => .error .badRange
    | .char c, rest => classMembers steps false (.between c c :: found) rest

def classOf (cs : List Char) : Except Fault (Pattern × List Char) := do
  let (negated, cs) := match cs with
    | '^' :: rest => (true, rest)
    | cs => (false, cs)
  let (classes, rest) ← classMembers (cs.length + 1) true [] cs
  return (.oneOf classes negated, rest)

def number? (cs : List Char) : Option Nat :=
  if cs.isEmpty then none else some (cs.foldl (fun n c => 10 * n + (c.toNat - '0'.toNat)) 0)

def bounds? (cs : List Char) : Option ((Nat × Option Nat) × List Char) :=
  let low := cs.takeWhile Char.isDigit
  match cs.dropWhile Char.isDigit with
  | '\x7d' :: rest => (number? low).map fun n => ((n, some n), rest)
  | ',' :: more =>
    let high := more.takeWhile Char.isDigit
    match more.dropWhile Char.isDigit with
    | '\x7d' :: rest => some (((number? low).getD 0, number? high), rest)
    | _ => none
  | _ => none

def repetition? : List Char → Option ((Nat × Option Nat) × List Char)
  | '*' :: rest => some ((0, none), rest)
  | '+' :: rest => some ((1, none), rest)
  | '?' :: rest => some ((0, some 1), rest)
  | '\x7b' :: rest => bounds? rest
  | _ => none

def isPlace : Pattern → Bool
  | atStart | atEnd | atVeryEnd | wordBoundary _ => true
  | _ => false

def withRepetition (p : Pattern) (cs : List Char) : Except Fault (Pattern × List Char) :=
  match repetition? cs with
  | none => .ok (p, cs)
  | some ((least, most), rest) =>
    if p.isPlace then .error .nothingToRepeat
    else if most.any (· < least) then .error .badRange
    else
      let rest := match rest with
        | '?' :: more | '+' :: more => more
        | _ => rest
      if (repetition? rest).isSome then .error .nothingToRepeat else .ok (.loop p least most, rest)

mutual
def alternatives : Nat → List Char → Except Fault (Pattern × List Char)
  | 0, _ => .error .unclosedGroup
  | steps + 1, cs => do
    let (first, rest) ← sequence steps cs
    match rest with
    | '|' :: more =>
      let (second, rest) ← alternatives steps more
      return (.alt first second, rest)
    | _ => return (first, rest)

def sequence : Nat → List Char → Except Fault (Pattern × List Char)
  | 0, _ => .error .unclosedGroup
  | steps + 1, cs => do
    match cs with
    | [] | '|' :: _ | ')' :: _ => return (.empty, cs)
    | _ =>
      let (first, rest) ← atom steps cs
      let (first, rest) ← withRepetition first rest
      let (others, rest) ← sequence steps rest
      return (.seq first others, rest)

def atom : Nat → List Char → Except Fault (Pattern × List Char)
  | 0, _ => .error .unclosedGroup
  | steps + 1, cs => do
    match cs with
    | '.' :: rest => return (.any, rest)
    | '^' :: rest => return (.atStart, rest)
    | '$' :: rest => return (.atEnd, rest)
    | '[' :: rest => classOf rest
    | '(' :: rest =>
      let rest := match rest with
        | '?' :: ':' :: more => more
        | _ => rest
      let (inner, rest) ← alternatives steps rest
      match rest with
      | ')' :: rest => return (inner, rest)
      | _ => throw .unclosedGroup
    | ['\\'] => throw .badEscape
    | '\\' :: c :: rest =>
      match escape? c with
      | some p => return (p, rest)
      | none => throw .badEscape
    | c :: rest =>
      if (repetition? cs).isSome then throw .nothingToRepeat else return (.char c, rest)
    | [] => return (.empty, [])
end

def read (text : String) : Except Fault Pattern := do
  let cs := text.toList
  let (p, rest) ← alternatives (3 * cs.length + 3) cs
  if rest.isEmpty then return p else throw .unopenedGroup

def union (found more : List Nat) : List Nat :=
  more.foldl (fun found i => if found.contains i then found else found ++ [i]) found

def closure (step : Nat → List Nat) : Nat → List Nat → List Nat
  | 0, found => found
  | rounds + 1, found =>
    let more := union found (found.flatMap step)
    if more.length = found.length then found else closure step rounds more

def onWord (text : Array Char) (i : Nat) : Bool := (text[i]?.map CharClass.isWord).getD false

def ends (text : Array Char) : Pattern → Nat → List Nat
  | empty, i => [i]
  | char c, i =>
    match text[i]? with
    | some d => if d = c || Case.fold d = Case.fold c then [i + 1] else []
    | none => []
  | any, i =>
    match text[i]? with
    | some d => if d = '\n' then [] else [i + 1]
    | none => []
  | oneOf classes negated, i =>
    match text[i]? with
    | some d => if classes.any (·.contains d) != negated then [i + 1] else []
    | none => []
  | atStart, i => if i = 0 then [i] else []
  | atEnd, i =>
    if i = text.size || (i + 1 = text.size && text[i]? == some '\n') then [i] else []
  | atVeryEnd, i => if i = text.size then [i] else []
  | wordBoundary negated, i =>
    let before := 0 < i && onWord text (i - 1)
    if (before != onWord text i) != negated then [i] else []
  | seq p q, i => (ends text p i).foldl (fun found j => union found (ends text q j)) []
  | alt p q, i => union (ends text p i) (ends text q i)
  | loop p least most, i =>
    let step := ends text p
    let advance (found : List Nat) : List Nat := found.foldl (fun all j => union all (step j)) []
    let start := (List.range least).foldl (fun found _ => advance found) [i]
    match most with
    | none => closure step (text.size + 1) start
    | some most =>
      (List.range (most - least)).foldl (fun found _ => union found (advance found)) start

def occursIn (p : Pattern) (text : String) : Bool :=
  let cs := text.toList.toArray
  (List.range (cs.size + 1)).any fun i => !(ends cs p i).isEmpty

end Pattern
end BlockScript
