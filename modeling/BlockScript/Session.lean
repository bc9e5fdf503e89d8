import BlockScript.Report

namespace BlockScript.Session

open Eval

inductive Argument where
  | none
  | bool (value : Bool)
  | int (value : Int)
  | float (value : Float)
  | text (value : String)
  | null
  | cell (content : Argument)
  | list (items : List Argument)
  | dict (entries : List (String × Argument))
  | register (name : String)
  /-- Something of the library, by its name. -/
  | named (name : String)
  | unknown
deriving Inhabited

inductive Binary where
  | comparison (op : Comparison)
  | arithmetic (op : Arithmetic)
  | mod

inductive Unary where
  | neg | str | bool | call | index | keys | hash

inductive Action where
  | value (x : Argument)
  | call (name : String) (arguments : List Argument)
  | callMember (x : Argument) (member : String) (arguments : List Argument)
  | apply (x : Argument) (arguments : List Argument)
  | binary (op : Binary) (x y : Argument)
  | unary (op : Unary) (x : Argument)
  | assign (x : Argument)
  | item (x index : Argument)
  | setItem (index x : Argument)
  | assignItem (index x : Argument)
  | member (x : Argument) (name : String)
  | setMember (name : String) (x : Argument)
  | assignMember (name : String) (x : Argument)
  | unknown

structure Step where
  register : String
  action : Action

def basics : List (String × Value) :=
  ([.wrap, .unwrap, .isCell, .isNull, .negate, .concat, .range, .tableOf, .executeInto].map
    fun r : Routine => (r.name, .routine r)) ++
  ([.null, .table, .record].map fun c : LibraryClass => (c.name, .library c))

def packages : List LibraryClass := [.standard, .cursors, .mocks, .output]

def resolve (name : String) : Eval Value := do
  match List.lookup name basics with
  | some v => return v
  | none =>
    match name.splitOn "." with
    | package :: path@(_ :: _) =>
      match packages.find? (·.name == package) with
      | some c => Library.member (.library c) (".".intercalate path)
      | none => fail .noKey
    | _ => fail .noKey

def ofRegister (registers : Bindings) (name : String) : Eval Value :=
  match registers.get? name with
  | some v => return v
  | none => fail .noKey

mutual
def read (registers : Bindings) : Argument → Eval Value
  | .none => return .none
  | .bool b => return .bool b
  | .int n => return .int n
  | .float x => return .float x
  | .text s => return .text s
  | .null => return .null
  | .cell content => do wrap (← read registers content)
  | .list items => do new (.list (← readAll registers items))
  | .dict entries => do new (.dict (← readEntries registers entries))
  | .register name => ofRegister registers name
  | .named name => resolve name
  | .unknown => fail .noKey

def readAll (registers : Bindings) : List Argument → Eval (List Value)
  | [] => return []
  | x :: rest => do
    let v ← read registers x
    return v :: (← readAll registers rest)

def readEntries (registers : Bindings) :
    List (String × Argument) → Eval (List (Value × Value))
  | [] => return []
  | (key, x) :: rest => do
    let v ← read registers x
    return (.text key, v) :: (← readEntries registers rest)
end

def granted : Nat := 1000000

def call : Value → List Value → Eval Value := Run.call granted

def gathered (v : Value) : Eval Value := do
  match v with
  | .range lower upper =>
    let (start, stop) ← Library.rangeBounds lower upper
    let cells ← (List.range (stop - start).toNat).mapM fun (i : Nat) => wrap (.int (start + i))
    new (.list cells)
  | v => return v

def binary : Binary → Value → Value → Eval Value
  | .comparison op => compare op
  | .arithmetic op => calculate op
  | .mod => mod

def indexed (v : Value) : Eval Value := do
  match Slice.slot? 100 (← toPosition v) with
  | some i => return .int i
  | none => fail .outOfRange

def keys (v : Value) : Eval Value := do
  match ← objectOf? v with
  | some (.dict entries) => new (.list (entries.map (·.1)))
  | _ => do
    let items ← toItems (← call (← Library.member v "keys") [])
    new (.list items)

def unary : Unary → Value → Eval Value
  | .neg, v => neg v
  | .str, v => do return .text (← text v)
  | .bool, v => do return .bool (← truth v)
  | .call, v => do gathered (← call v [])
  | .index, v => indexed v
  | .keys, v => keys v
  | .hash, v => do if ← isKey v then return .bool true else fail .unsuited

def perform (registers : Bindings) (name : String) : Action → Eval Value
  | .value x => read registers x
  | .call routine xs => do
    let f ← resolve routine
    gathered (← call f (← readAll registers xs))
  | .callMember x member xs => do
    let f ← Library.member (← read registers x) member
    gathered (← call f (← readAll registers xs))
  | .apply x xs => do
    let f ← read registers x
    gathered (← call f (← readAll registers xs))
  | .binary op x y => do
    let a ← read registers x
    binary op a (← read registers y)
  | .unary op x => do unary op (← read registers x)
  | .assign x => do
    let target ← ofRegister registers name
    Eval.assign target (← read registers x)
  | .item x index => do
    let v ← read registers x
    Library.getItem call v (← read registers index)
  | .setItem index x => do
    let target ← ofRegister registers name
    let index ← read registers index
    Library.setItem call target index (← read registers x)
    return target
  | .assignItem index x => do
    let target ← ofRegister registers name
    let index ← read registers index
    let old ← Library.getItem call target index
    Library.setItem call target index (← Eval.assign old (← read registers x))
    return target
  | .member x member => do Library.member (← read registers x) member
  | .setMember member x => do
    let target ← ofRegister registers name
    Library.setMember target member (← read registers x)
    return target
  | .assignMember member x => do
    let target ← ofRegister registers name
    let old ← Library.member target member
    Library.setMember target member (← Eval.assign old (← read registers x))
    return target
  | .unknown => fail .noKey

structure Outcome where
  result : Except Failure Snapshot
  lines : List String
  events : List Event

def outcomes (registers : Bindings) (machine : Machine) : List Step → List Outcome × Machine
  | [] => ([], machine)
  | step :: rest =>
    let fresh := { machine with
      printed := []
      database := { machine.database with entries := [] } }
    let outcome (result : Except Failure Snapshot) (after : Machine) : Outcome :=
      { result, lines := after.lines, events := after.database.log }
    match (perform registers step.register step.action).run fresh with
    | .ok v after =>
      let (others, last) := outcomes (registers.set step.register v) after rest
      (outcome (.ok (.take after.store v)) after :: others, last)
    | .error stop after =>
      let cause := match stop with
        | .failed cause => cause
        | .exhausted => .tooDeep
      let (others, last) := outcomes registers after rest
      (outcome (.error cause) after :: others, last)

def run (steps : List Step) : List Outcome × Status :=
  let (found, machine) := outcomes [] {} steps
  (found, machine.status)

end BlockScript.Session
