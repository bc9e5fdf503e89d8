import BlockScript.Machine.Truth

/-!
Comparisons and arithmetic. Cells compare what they hold and give a cell; comparing with the absent
value gives the absent value.
-/

namespace BlockScript

def Comparison.swap : Comparison → Comparison
  | eq => eq
  | ne => ne
  | gt => lt
  | lt => gt
  | ge => le
  | le => ge

def Comparison.holds : Comparison → Ordering → Bool
  | eq, o => o == .eq
  | ne, o => o != .eq
  | gt, o => o == .gt
  | lt, o => o == .lt
  | ge, o => o != .lt
  | le, o => o != .gt

namespace Eval

def isSame : Value → Value → Bool
  | .object a, .object b => a == b
  | .library a, .library b => a == b
  | .routine a, .routine b => a == b
  | .none, .none => true
  | .connection a, .connection b => a == b
  | .method a m, .method b n => a == b && m == n
  | _, _ => false

section

variable (deeper : Comparison → Value → Value → Eval Value)

def itemsEqual (x y : Value) : Eval Bool := do
  if isSame x y then return true else truth (← deeper .eq x y)

def compareItems (op : Comparison) (xs ys : List Value) : Eval Value := do
  if (op == .eq || op == .ne) && xs.length != ys.length then return .bool (op == .ne)
  match ← (xs.zip ys).findM? fun pair => do return !(← itemsEqual deeper pair.1 pair.2) with
  | some (x, y) => if op == .eq || op == .ne then return .bool (op == .ne) else deeper op x y
  | none => return .bool (op.holds (Ord.compare xs.length ys.length))

def lookup? (entries : List (Value × Value)) (key : Value) : Eval (Option Value) := do
  return (← entries.findM? fun e => itemsEqual deeper key e.1).map (·.2)

def entriesEqual (xs ys : List (Value × Value)) : Eval Bool := do
  if xs.length != ys.length then return false
  xs.allM fun e => do
    match ← lookup? deeper ys e.1 with
    | some v => itemsEqual deeper e.2 v
    | none => return false

def compareBare (op : Comparison) (a b : Value) : Eval (Option Value) := do
  let equality := op == .eq || op == .ne
  match a.number?, b.number? with
  | some x, some y =>
    match x.order? y with
    | some o => return some (.bool (op.holds o))
    | none => return some (.bool (op == .ne))
  | _, _ =>
    match a, b with
    | .text s, .text t => return some (.bool (op.holds (Ord.compare s t)))
    | _, _ =>
      match ← objectOf? a, ← objectOf? b with
      | some (.list xs), some (.list ys) | some (.tuple xs), some (.tuple ys) =>
        return some (← compareItems deeper op xs ys)
      | some (.dict xs), some (.dict ys) =>
        if equality then return some (.bool ((← entriesEqual deeper xs ys) == (op == .eq)))
        else return none
      | _, _ => if equality && isSame a b then return some (.bool (op == .eq)) else return none

def compareCell (op : Comparison) (content other : Value) : Eval Value := do
  if op == .eq then
    wrap (← deeper .eq content (← likened content (← unwrap other)))
  else
    match ← cell? (← wrap other) with
    | some (_, y) => wrap (← deeper op content y)
    | none => fail .noMember

end

def compareWithin : Nat → Comparison → Value → Value → Eval Value
  | 0, _, _, _ => fail .tooDeep
  | steps + 1, op, a, b => do
    let deeper := compareWithin steps
    match ← cell? a with
    | some (_, content) => compareCell deeper op content b
    | none =>
      if let .null := a then return .null
      match ← compareBare deeper op a b with
      | some v => return v
      | none =>
        match ← cell? b with
        | some (_, content) => compareCell deeper op.swap content a
        | none =>
          if let .null := b then return .null
          match op with
          | .eq => return .bool false
          | .ne => return .bool true
          | _ => fail .unsuited

def compare (op : Comparison) (a b : Value) : Eval Value := compareWithin depthLimit op a b

def holds (op : Comparison) (a b : Value) : Eval Bool := do truth (← compare op a b)

def onNumbers (f : Number → Number → Except Failure Number) (a b : Value) : Eval Value := do
  match a.number?, b.number? with
  | some x, some y => return (← ofExcept (f x y)).toValue
  | _, _ => fail .unsuited

def repeated (n : Int) (items : List α) : List α := (List.replicate n.toNat items).flatten

def repeatSequence? (v : Value) (n : Int) : Eval (Option Value) := do
  match v with
  | .text s => return some (.text (String.ofList (repeated n s.toList)))
  | _ =>
    match ← objectOf? v with
    | some (.list items) => return some (← new (.list (repeated n items)))
    | some (.tuple items) => return some (← new (.tuple (repeated n items)))
    | _ => return none

def addBare (a b : Value) : Eval Value := do
  match a, b with
  | .null, _ => return .null
  | .text s, .text t => return .text (s ++ t)
  | _, _ =>
    match ← objectOf? a, ← objectOf? b with
    | some (.list xs), some (.list ys) => new (.list (xs ++ ys))
    | some (.tuple xs), some (.tuple ys) => new (.tuple (xs ++ ys))
    | _, _ => onNumbers Number.add a b

def subBare (a b : Value) : Eval Value :=
  match a with
  | .null => return .null
  | _ => onNumbers Number.sub a b

def mulBare (a b : Value) : Eval Value := do
  if let .null := a then return .null
  match a.number?, b.number? with
  | some _, some _ => onNumbers Number.mul a b
  | _, _ =>
    if let some n ← position? b then
      if let some v ← repeatSequence? a n then return v
    if let some n := a.integer? then
      if let some v ← repeatSequence? b n then return v
    fail .unsuited

def divBare (a b : Value) : Eval Value :=
  match a with
  | .null => return .null
  | _ => onNumbers Number.div a b

/-- The remainder. A text on the left side is a format, and a format without places in it takes no
values but empty ones. -/
def modBare (a b : Value) : Eval Value := do
  match a with
  | .text s =>
    if s.toList.contains '%' then fail .badValue
    match ← objectOf? b with
    | some (.tuple []) | some (.list _) | some (.dict _) | some (.table ..) => return a
    | _ => fail .unsuited
  | _ => onNumbers Number.mod a b

def onCells (bare : Value → Value → Eval Value) (a b : Value) : Eval Value := do
  match ← cell? a with
  | some (_, x) =>
    match ← cell? (← wrap b) with
    | some (_, y) => wrap (← bare x y)
    | none => fail .noMember
  | none => bare a b

def add : Value → Value → Eval Value := onCells addBare
def sub : Value → Value → Eval Value := onCells subBare
def mul : Value → Value → Eval Value := onCells mulBare
def div : Value → Value → Eval Value := onCells divBare
def mod : Value → Value → Eval Value := onCells modBare

def calculate : Arithmetic → Value → Value → Eval Value
  | .add => add
  | .sub => sub
  | .mul => mul
  | .div => div

def negBare (v : Value) : Eval Value :=
  match v with
  | .null => return .null
  | _ =>
    match v.number? with
    | some n => return n.neg.toValue
    | none => fail .unsuited

def neg (v : Value) : Eval Value := do
  match ← cell? v with
  | some (_, content) => wrap (← negBare content)
  | none => negBare v

/-- The value that is kept when one is assigned over another. -/
def assign (target v : Value) : Eval Value := do
  match target with
  | .object a =>
    match ← load? a with
    | some (.cell _) =>
      let source ← wrap v
      match ← cell? source with
      | some (_, content) =>
        put a (.cell content)
        return target
      | none => return source
    | some (.record _) =>
      match ← objectOf? v with
      | some (.record fields) =>
        put a (.record fields)
        return target
      | _ => fail .noMember
    | _ => fail .unsuited
  | _ =>
    match target.integer?, v.integer? with
    | some x, some n => if n < 0 then fail .badValue else return .int (x * Int.pow 2 n.toNat)
    | _, _ => fail .unsuited

end Eval
end BlockScript
