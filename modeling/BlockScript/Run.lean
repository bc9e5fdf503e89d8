import BlockScript.Library
import BlockScript.Target.Names

/-!
Running programs. A run is granted a number of steps; it ends with a result, with a failure, or
because the steps are used up.
-/

namespace BlockScript.Run

open Eval Target

/-- Where a piece of a program runs: in the body of a package, in a call of a routine, or in the
program itself. -/
structure Place where
  /-- The frame of the routine around it. -/
  frame : Option Address := none
  /-- The package whose body it is. -/
  package : Option Address := none
  /-- The names that are used there. -/
  used : List String := []

inductive Flow where
  | next
  | broke
  | continued
  | returned (value : Value)

def callLimit : Nat := 980

def frameAt (a : Address) : Eval Frame := do
  match ← load? a with
  | some (.frame f) => return f
  | _ => fail .unknownName

def globalName (name : String) : Eval Value := do
  match (← get).globals.get? name with
  | some v => return v
  | none => if name == "locals" then return .routine .locals else fail .unknownName

/-- A name of one of the frames from the inside out, then of the program. -/
def frameName (name : String) (cause : Failure) : Nat → Option Address → Eval Value
  | steps + 1, some a => do
    let f ← frameAt a
    if f.own.contains name then
      match f.values.get? name with
      | some v => return v
      | none => fail cause
    else frameName name .unknownName steps f.outer
  | _, _ => globalName name

def lookUp (place : Place) (name : String) : Eval Value := do
  let steps := (← get).store.size
  match place.package with
  | some a =>
    match ← load? a with
    | some (.package p) =>
      match p.members.get? name with
      | some v => return v
      | none => frameName name .unknownName steps place.frame
    | _ => fail .unknownName
  | none => frameName name .unsetLocal steps place.frame

def bindName (place : Place) (name : String) (v : Value) : Eval Unit := do
  match place.package, place.frame with
  | some a, _ => Library.setMember (.object a) name v
  | none, some a =>
    let f ← frameAt a
    put a (.frame { f with values := f.values.set name v })
  | none, none => modify fun machine => { machine with globals := machine.globals.set name v }

def outerValues (names : List String) (outer : Option Address) : Eval Bindings := do
  let steps := (← get).store.size
  names.foldlM (fun found name => do
    let rec ownerValue : Nat → Option Address → Eval (Option Value)
      | steps + 1, some a => do
        let f ← frameAt a
        if f.own.contains name then return f.values.get? name else ownerValue steps f.outer
      | _, _ => return none
    match ← ownerValue steps outer with
    | some v => return found.set name v
    | none => return found) []

def localNames (place : Place) : Eval Bindings := do
  match place.package, place.frame with
  | some a, _ =>
    match ← load? a with
    | some (.package p) => return p.members
    | _ => return []
  | none, some a =>
    let f ← frameAt a
    let names := place.used.filter fun name => !f.own.contains name
    return f.values.setAll (← outerValues names f.outer)
  | none, none => return (← get).globals

def literal : Literal → Value
  | .bool b => .bool b
  | .int n => .int n
  | .float x => .float x
  | .text s => .text s

def exceptionOf (v : Value) : Eval Exception :=
  match v with
  | .library (.exception e) => return e
  | _ => fail .unsuited

def raising (v : Value) : Eval α :=
  match v with
  | .library (.exception e) | .plain (.exception e) => fail (.raised e)
  | _ => fail .unsuited

def raiseAgain : Eval α := do
  match (← get).handling with
  | cause :: _ => fail cause
  | [] => fail .nothingToRaise

def takes (e : Exception) : Failure → Bool
  | .raised raised => raised.isA e
  | _ => false

def handling (cause : Failure) (action : Eval α) : Eval α := do
  let before := (← get).handling
  modify ({ · with handling := cause :: before })
  try
    let result ← action
    modify ({ · with handling := before })
    return result
  catch stop =>
    modify ({ · with handling := before })
    throw stop

def deeper (action : Eval α) : Eval α := do
  let before := (← get).depth
  if callLimit ≤ before then fail .tooDeep
  modify ({ · with depth := before + 1 })
  try
    let result ← action
    modify ({ · with depth := before })
    return result
  catch stop =>
    modify ({ · with depth := before })
    throw stop

def enter (f : Function) (arguments : List Value) : Eval Address := do
  if arguments.length != f.parameters.length then fail .unsuited
  allocate (.frame
    { own := f.parameters ++ boundInAll f.body
      values := Bindings.setAll [] (f.parameters.zip arguments)
      outer := f.outer })

def basesOf (place : Place) (names : List String) : Eval (List Address) :=
  names.mapM fun name => do
    match ← lookUp place name with
    | .object a =>
      match ← load? a with
      | some (.package _) => return a
      | _ => fail .unsuited
    | _ => fail .unsuited

def importAll (package : String) : Eval Unit := do
  match Library.exports? package with
  | some names =>
    modify fun machine => { machine with globals := machine.globals.setAll names }
  | none => fail (.unknownPackage package)

mutual
def evaluate (place : Place) : Nat → Expr → Eval Value
  | 0, _ => throw .exhausted
  | steps + 1, e => do
    match e with
    | .name id => lookUp place id
    | .attribute value attr => Library.member (← evaluate place steps value) attr
    | .call func args =>
      let f ← evaluate place steps func
      let arguments ← evaluateAll place steps args
      match f, arguments with
      | .routine .locals, [] =>
        let names ← localNames place
        new (.dict (names.map fun b => (.text b.1, b.2)))
      | _, _ => call steps f arguments
    | .constant value => return literal value
    | .binary left op right =>
      let a ← evaluate place steps left
      calculate op a (← evaluate place steps right)
    | .compare left op right =>
      let a ← evaluate place steps left
      compare op a (← evaluate place steps right)
    | .compareBoth left first middle second right =>
      let a ← evaluate place steps left
      let b ← evaluate place steps middle
      let result ← compare first a b
      if ← truth result then compare second b (← evaluate place steps right)
      else return result
    | .connect connective operands => connect place steps connective operands
    | .negative operand => neg (← evaluate place steps operand)
    | .list items => new (.list (← evaluateAll place steps items))
    | .subscript value index =>
      let v ← evaluate place steps value
      Library.getItem (call steps) v (← evaluate place steps index)

def evaluateAll (place : Place) : Nat → List Expr → Eval (List Value)
  | 0, _ => throw .exhausted
  | _, [] => return []
  | steps + 1, e :: rest => do
    let v ← evaluate place steps e
    return v :: (← evaluateAll place steps rest)

def connect (place : Place) : Nat → Connective → List Expr → Eval Value
  | 0, _, _ => throw .exhausted
  | _, _, [] => return .none
  | steps + 1, _, [e] => evaluate place steps e
  | steps + 1, connective, e :: rest => do
    let v ← evaluate place steps e
    if (← truth v) == (connective == .either) then return v
    connect place steps connective rest

def call : Nat → Value → List Value → Eval Value
  | 0, _, _ => throw .exhausted
  | steps + 1, v, arguments => do
    match ← objectOf? v with
    | some (.function f) =>
      let frame ← enter f arguments
      let place : Place := { frame := some frame, used := usedInStmts f.body }
      match ← deeper (executeAll place steps f.body) with
      | .returned result => return result
      | _ => return .none
    | _ => Library.callValue (call steps) v arguments

def execute (place : Place) : Nat → Stmt → Eval Flow
  | 0, _ => throw .exhausted
  | steps + 1, s => do
    match s with
    | .expr value =>
      discard (evaluate place steps value)
      return .next
    | .assign target value =>
      bindName place target (← evaluate place steps value)
      return .next
    | .update (.name target) value =>
      let old ← lookUp place target
      bindName place target (← assign old (← evaluate place steps value))
      return .next
    | .update (.attribute owner attr) value =>
      let owner ← evaluate place steps owner
      let old ← Library.member owner attr
      Library.setMember owner attr (← assign old (← evaluate place steps value))
      return .next
    | .update (.subscript owner index) value =>
      let owner ← evaluate place steps owner
      let index ← evaluate place steps index
      let old ← Library.getItem (call steps) owner index
      let new ← assign old (← evaluate place steps value)
      Library.setItem (call steps) owner index new
      return .next
    | .pass => return .next
    | .breakLoop => return .broke
    | .continueLoop => return .continued
    | .branch test body orelse =>
      if ← truth (← evaluate place steps test) then executeAll place steps body
      else executeAll place steps orelse
    | .whileLoop test body => repeatWhile place steps test body
    | .forLoop target range body =>
      match ← evaluate place steps range with
      | .range lower upper =>
        let (start, stop) ← Library.rangeBounds lower upper
        repeatOver place steps target start (stop - start).toNat body
      | _ => fail .unsuited
    | .raiseError none => raiseAgain
    | .raiseError (some e) => raising (← evaluate place steps e)
    | .returnValue none => return .returned .none
    | .returnValue (some e) => return .returned (← evaluate place steps e)
    | .guard body handlers =>
      try executeAll place steps body
      catch
        | .exhausted => throw .exhausted
        | .failed cause => handle place steps cause handlers
    | .function name parameters isStatic body =>
      let f ← new (.function { name, parameters, isStatic, body, outer := place.frame })
      bindName place name f
      return .next
    | .classDef name bases body =>
      let bases ← basesOf place bases
      let a ← allocate (.package { name, bases, members := [] })
      let flow ← executeAll { place with package := some a } steps body
      bindName place name (.object a)
      return flow
    | .importAll package =>
      importAll package
      return .next

def executeAll (place : Place) : Nat → List Stmt → Eval Flow
  | 0, _ => throw .exhausted
  | _, [] => return .next
  | steps + 1, s :: rest => do
    match ← execute place steps s with
    | .next => executeAll place steps rest
    | flow => return flow

def repeatWhile (place : Place) : Nat → Expr → List Stmt → Eval Flow
  | 0, _, _ => throw .exhausted
  | steps + 1, test, body => do
    if ← truth (← evaluate place steps test) then
      match ← executeAll place steps body with
      | .next | .continued => repeatWhile place steps test body
      | .broke => return .next
      | flow => return flow
    else return .next

def repeatOver (place : Place) :
    Nat → String → Int → Nat → List Stmt → Eval Flow
  | 0, _, _, _, _ => throw .exhausted
  | _, _, _, 0, _ => return .next
  | steps + 1, target, n, count + 1, body => do
    bindName place target (← wrap (.int n))
    match ← executeAll place steps body with
    | .next | .continued => repeatOver place steps target (n + 1) count body
    | .broke => return .next
    | flow => return flow

def handle (place : Place) : Nat → Failure → List Handler → Eval Flow
  | 0, _, _ => throw .exhausted
  | _, cause, [] => fail cause
  | steps + 1, cause, .mk exception body :: rest => do
    let e ← handling cause (do exceptionOf (← evaluate place steps exception))
    if takes e cause then handling cause (executeAll place steps body)
    else handle place steps cause rest
end

end BlockScript.Run
