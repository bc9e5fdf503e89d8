import BlockScript.Machine
import BlockScript.Number
import BlockScript.Text.Quoted

/-!
Texts and truth of values. Inside a collection a text is quoted. Things without a text of their own are shown
by their class.
-/

namespace BlockScript.Show

def thing (path : String) : String := "<" ++ path ++ " object>"

def commaSeparated (parts : List String) : String := ", ".intercalate parts

def tupleItems : List String → String
  | [one] => one ++ ","
  | parts => commaSeparated parts

def ofBool (b : Bool) : String := if b then "True" else "False"

/-- How a value is written inside a collection. -/
def insideWithin (s : Store) : Nat → List Address → Value → String
  | _, _, .none => "None"
  | _, _, .bool b => ofBool b
  | _, _, .int n => toString n
  | _, _, .float x => Decimal.render x
  | _, _, .text t => Quoted.write t
  | _, _, .null => thing "NULL.NULL"
  | _, _, .routine r => "<function " ++ r.name ++ ">"
  | _, _, .library c => "<class '" ++ c.path ++ "'>"
  | _, _, .plain (.exception e) => (LibraryClass.exception e).name ++ "()"
  | _, _, .plain c => thing c.path
  | _, _, .method _ m =>
    "<bound method " ++ (Routine.member m).name ++ " of " ++ thing m.path.1.path ++ ">"
  | _, _, .tables _ => "<function PLTABLE_OF.<locals>.<lambda>>"
  | _, _, .range .. => "<generator object mrange>"
  | _, _, .connection _ => thing "MOCKPLCURSOR._FakeConnection"
  | 0, _, .object _ => "..."
  | steps + 1, path, .object a =>
    let again := path.contains a
    let inner := insideWithin s steps (a :: path)
    match s.get? a with
    | some (.cell _) => thing "Mutable.Mutable"
    | some (.list items) =>
      if again then "[...]" else "[" ++ commaSeparated (items.map inner) ++ "]"
    | some (.tuple items) => if again then "(...)" else "(" ++ tupleItems (items.map inner) ++ ")"
    | some (.dict entries) =>
      if again then "\x7b...\x7d"
      else "\x7b" ++ commaSeparated (entries.map fun e => inner e.1 ++ ": " ++ inner e.2) ++ "\x7d"
    | some (.table ..) => thing LibraryClass.table.path
    | some (.record _) => thing LibraryClass.record.path
    | some (.cursor _) => thing LibraryClass.cursor.path
    | some (.mock _) => thing LibraryClass.mock.path
    | some (.execution _) => thing "MOCKPLCURSOR._FakeCursor"
    | some (.package p) => "<class '__main__." ++ p.name ++ "'>"
    | some (.member p _) =>
      match s.get? p with
      | some (.package p) => thing ("__main__." ++ p.name)
      | _ => thing "__main__"
    | some (.function f) => "<function " ++ f.name ++ ">"
    | some (.frame _) | none => thing "__main__"

def inside (s : Store) (v : Value) : String := insideWithin s (s.size + 1) [] v

def text (s : Store) (v : Value) : Except Failure String :=
  match v with
  | .text t => .ok t
  | .null => .ok ""
  | .plain (.exception _) => .ok ""
  | .object a =>
    match s.get? a with
    | some (.cell (.text t)) => .ok t
    | some (.cell _) => .error .unsuited
    | _ => .ok (inside s v)
  | _ => .ok (inside s v)

end BlockScript.Show

namespace BlockScript.Eval

def ofExcept : Except Failure α → Eval α
  | .ok a => return a
  | .error cause => fail cause

def text (v : Value) : Eval String := do ofExcept (Show.text (← get).store v)

def bareTruth (v : Value) : Eval Bool := do
  match v with
  | .none | .null => return false
  | .bool b => return b
  | .int n => return n != 0
  | .float x => return !(x == 0.0)
  | .text s => return !s.isEmpty
  | _ =>
    match ← objectOf? v with
    | some (.list items) | some (.tuple items) => return !items.isEmpty
    | some (.dict entries) => return !entries.isEmpty
    | _ => return true

/-- Whether a cell counts as true, by what it holds. -/
def contentTruth (v : Value) : Eval Bool := do
  match v with
  | .none | .null => return false
  | .bool b => return b
  | .int n => return n != 0
  | .float x => return !(x == 0.0)
  | .library .null => fail .unsuited
  | .object a =>
    match ← load? a with
    | some (.record fields) =>
      let field ← new (.cell .null)
      if (fields.get? "__bool__").isNone then put a (.record (fields.set "__bool__" field))
      fail .unsuited
    | some (.cell _) => fail .tooDeep
    | _ => fail .noMember
  | _ => fail .noMember

def truth (v : Value) : Eval Bool := do
  match ← cell? v with
  | some (_, content) => contentTruth content
  | none => bareTruth v

def toInteger (v : Value) : Eval Int := do
  match v with
  | .bool b => return if b then 1 else 0
  | .int n => return n
  | .float x =>
    match Decimal.truncate? x with
    | some n => return n
    | none => fail (if x.isNaN then .badValue else .tooLarge)
  | .text s =>
    match Decimal.readInt? s with
    | some n => return n
    | none => fail .badValue
  | _ => fail .unsuited

def toFloat (v : Value) : Eval Float := do
  match v with
  | .text s =>
    match Decimal.read? s with
    | some x => return x
    | none => fail .badValue
  | _ =>
    match v.number? with
    | some n => ofExcept n.toFloat
    | none => fail .unsuited

def toItems (v : Value) : Eval (List Value) := do
  match v with
  | .text s => return s.toList.map fun c => .text (String.singleton c)
  | _ =>
    match ← objectOf? v with
    | some (.list items) | some (.tuple items) => return items
    | some (.dict entries) => return entries.map (·.1)
    | _ => fail .unsuited

def position? (v : Value) : Eval (Option Int) := do return (← unwrap v).integer?

def toPosition (v : Value) : Eval Int := do
  match ← position? v with
  | some n => return n
  | none => fail .unsuited

def isLike (sample v : Value) : Eval Bool := do
  match sample, v with
  | .none, .none | .bool _, .bool _ | .int _, .int _ | .int _, .bool _ | .float _, .float _
  | .text _, .text _ | .null, _ => return true
  | .routine _, .routine _ | .routine _, .tables _ | .tables _, .routine _
  | .tables _, .tables _ | .method .., .method .. | .range .., .range ..
  | .library _, .library _ => return true
  | .plain a, .plain b => return a == b
  | .object _, .object _ =>
    match ← objectOf? sample, ← objectOf? v with
    | some (.list _), some (.list _) | some (.tuple _), some (.tuple _)
    | some (.dict _), some (.dict _) | some (.table ..), some (.table ..)
    | some (.record _), some (.record _) | some (.function _), some (.function _)
    | some (.package _), some (.package _) | some (.cell _), some (.cell _) => return true
    | some (.member p _), some (.member q _) => return p == q
    | _, _ => return false
  | _, _ => return false

def likened (sample v : Value) : Eval Value := do
  if ← isLike sample v then return v
  match sample with
  | .bool _ => return .bool (← truth v)
  | .int _ => return .int (← toInteger v)
  | .float _ => return .float (← toFloat v)
  | .text _ => return .text (← text v)
  | .library _ => return .none
  | .plain (.exception e) => return .plain (.exception e)
  | _ =>
    match ← objectOf? sample with
    | some (.list _) => new (.list (← toItems v))
    | some (.tuple _) => new (.tuple (← toItems v))
    | some (.dict _) =>
      if (← toItems v).isEmpty then new (.dict []) else fail .unsuited
    | some (.table ..) => new (.table [] v)
    | some (.package _) => return .none
    | _ => fail .unsuited

end BlockScript.Eval
