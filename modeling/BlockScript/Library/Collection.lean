import BlockScript.Machine.Arithmetic
import BlockScript.Text.Data
import BlockScript.Text.Search
import BlockScript.Text.Slice

namespace BlockScript.Eval

/-- Whether a value can be a key: what can change by itself cannot, and the absent value cannot. -/
def isKeyWithin : Nat → Value → Eval Bool
  | 0, _ => fail .tooDeep
  | steps + 1, v => do
    match v with
    | .null => return false
    | _ =>
      match ← objectOf? v with
      | some (.list _) | some (.dict _) => return false
      | some (.tuple items) => items.allM (isKeyWithin steps)
      | some (.cell content) => isKeyWithin steps content
      | _ => return true

def isKey (v : Value) : Eval Bool := isKeyWithin depthLimit v

def entry? (entries : List (Value × Value)) (key : Value) : Eval (Option Value) := do
  unless ← isKey key do fail .unsuited
  lookup? compare entries key

def setEntry (entries : List (Value × Value)) (key v : Value) : Eval (List (Value × Value)) := do
  unless ← isKey key do fail .unsuited
  match ← entries.findM? fun e => itemsEqual compare key e.1 with
  | none => return entries ++ [(key, v)]
  | some _ => entries.mapM fun e => do
      if ← itemsEqual compare key e.1 then return (e.1, v) else return e

def itemOf (items : List Value) (index : Value) : Eval Value := do
  match Slice.slot? items.length (← toPosition index) with
  | some i => return items.getD i .none
  | none => fail .outOfRange

def item (v index : Value) : Eval Value := do
  match v with
  | .text s => itemOf (s.toList.map fun c => .text (String.singleton c)) index
  | _ =>
    match ← objectOf? v with
    | some (.list items) | some (.tuple items) => itemOf items index
    | some (.dict entries) =>
      match ← entry? entries index with
      | some v => return v
      | none => fail .noKey
    | _ => fail .unsuited

def setItem (target index v : Value) : Eval Unit := do
  match target with
  | .object a =>
    match ← load? a with
    | some (.list items) =>
      match Slice.slot? items.length (← toPosition index) with
      | some i => put a (.list (items.set i v))
      | none => fail .outOfRange
    | some (.dict entries) => put a (.dict (← setEntry entries index v))
    | _ => fail .unsuited
  | _ => fail .unsuited

def hasItem (v x : Value) : Eval Bool := do
  match v, x with
  | .text s, .text part => return (Search.find? part.toList s.toList).isSome
  | .text _, _ => fail .unsuited
  | _, _ =>
    match ← objectOf? v with
    | some (.list items) | some (.tuple items) => items.anyM fun i => itemsEqual compare x i
    | some (.dict entries) => return (← entry? entries x).isSome
    | _ => fail .unsuited

def length (v : Value) : Eval Nat := do
  match v with
  | .text s => return s.length
  | _ =>
    match ← objectOf? v with
    | some (.list items) | some (.tuple items) => return items.length
    | some (.dict entries) => return entries.length
    | _ => fail .unsuited

def slice (v : Value) (cut : {α : Type} → List α → List α) : Eval Value := do
  match v with
  | .text s => return .text (String.ofList (cut s.toList))
  | _ =>
    match ← objectOf? v with
    | some (.list items) => new (.list (cut items))
    | some (.tuple items) => new (.tuple (cut items))
    | _ => fail .unsuited

mutual
def ofData : Data → Eval Value
  | .none => return .none
  | .bool b => return .bool b
  | .int n => return .int n
  | .float x => return .float x
  | .text s => return .text s
  | .list items => do new (.list (← ofDataList items))
  | .tuple items => do new (.tuple (← ofDataList items))
  | .dict entries => do new (.dict (← ofDataEntries [] entries))

def ofDataList : List Data → Eval (List Value)
  | [] => return []
  | d :: rest => do
    let v ← ofData d
    return v :: (← ofDataList rest)

def ofDataEntries (done : List (Value × Value)) : List (Data × Data) → Eval (List (Value × Value))
  | [] => return done
  | (k, d) :: rest => do
    let key ← ofData k
    let v ← ofData d
    ofDataEntries (← setEntry done key v) rest
end

end BlockScript.Eval
