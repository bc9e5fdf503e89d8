import BlockScript.Library.Cursor

/-!
The routines of the standard package. Most of them give the absent value for an absent argument and
put their result into a cell.
-/

namespace BlockScript.Standard

open Eval

def character (code : Int) : Eval Value := do
  if code < -2147483648 || 2147483648 ≤ code then fail .tooLarge
  if code < 0 || 0x110000 ≤ code then fail .badValue
  wrap (.text (String.singleton (Char.ofNat code.toNat)))

def chr (n : Value) : Eval Value := do
  if ← isAbsent n then return .null
  let code ← match ← unwrap n with
    | .text s => toInteger (.text s)
    | v =>
      match v.integer? with
      | some n => pure n
      | none => fail .unsuited
  character code

/-- The text that an operation of texts is asked for. -/
def textFor (operation : String) (v : Value) : Eval String := do
  match v with
  | .text s => return s
  | .object a =>
    match ← load? a with
    | some (.record fields) =>
      discard (Record.field a fields operation)
      fail .unsuited
    | _ => fail .noMember
  | _ => fail .noMember

def textArgument (v : Value) : Eval String :=
  match v with
  | .text s => return s
  | _ => fail .unsuited

def position (text part : String) : Nat :=
  match Search.find? part.toList text.toList with
  | some i => i + 1
  | none => 0

def instr (text part : Value) : Eval Value := do
  let s ← textFor "find" (← unwrap text)
  let t ← textArgument (← unwrap part)
  wrap (.int (position s t))

def length (v : Value) : Eval Value := do
  if ← isAbsent v then return .null
  return .int (← Eval.length (← unwrap v))

def onShown (f : String → String) (v : Value) : Eval Value := do
  if ← isAbsent v then return .null
  wrap (.text (f (← text (← unwrap v))))

def lower : Value → Eval Value := onShown Case.toLower

def upper : Value → Eval Value := onShown Case.toUpper

def toChar : Value → Eval Value := onShown id

def mod (n divisor : Value) : Eval Value := do
  wrap (← Eval.mod (← unwrap n) (← unwrap divisor))

def nvl (v replacement : Value) : Eval Value := do
  if ← isAbsent v then return replacement else return v

def raiseError (number message : Value) : Eval Value := do
  let number ← unwrap number
  let message := "ORA" ++ (← text number) ++ ": " ++ (← text (← unwrap message))
  let code ← wrap number
  modify ({ · with errorCode := code })
  let message ← wrap (.text message)
  modify ({ · with errorText := message })
  fail (.raised .general)

def replaced (source search new : Value) : Eval Value := do
  let s ← textFor "replace" source
  let part ← textArgument search
  let new ← textArgument new
  wrap (.text (String.ofList (Search.replaceAll part.toList new.toList s.toList)))

def replace (source search replacement : Value) : Eval Value := do
  if ← isAbsent source then return source
  if ← isAbsent search then return source
  let source ← unwrap source
  let search ← unwrap search
  let new ← if ← isAbsent replacement then pure (Value.text "") else unwrap replacement
  replaced source search new

def part (string length position : Value) : Eval Value :=
  match length with
  | .none => do
    let start ← toPosition position
    wrap (← slice string (Slice.since · start))
  | _ => do
    let stop ← add position length
    let start ← toPosition position
    let stop ← toPosition stop
    wrap (← slice string (Slice.between · start stop))

/-- A part of a text from a position on, which counts from one, or from the end if it is negative.
-/
def substr (string position length : Value) : Eval Value := do
  if ← isAbsent string then return .null
  if ← isAbsent position then return .null
  let string ← unwrap string
  let position ← unwrap position
  let length ← unwrap length
  let position ← if ← holds .eq position (.int 0) then pure (.int 1) else pure position
  let position ← if ← holds .gt position (.int 0) then sub position (.int 1) else pure position
  part string length position

def toNumber (v : Value) : Eval Value := do
  if ← isAbsent v then return .null
  let x ← toFloat (← unwrap v)
  match Decimal.toInt? x with
  | some n => wrap (.int n)
  | none => wrap (.float x)

def isSpace (c : Char) : Bool := c == ' '

def trimLeft (cs : List Char) : List Char := cs.dropWhile isSpace

def trimRight (cs : List Char) : List Char := (cs.reverse.dropWhile isSpace).reverse

def trim (operation : String) (f : List Char → List Char) (v : Value) : Eval Value := do
  if ← isAbsent v then return .null
  let s ← textFor operation (← unwrap v)
  wrap (.text (String.ofList (f s.toList)))

def filled (toLeft v count fill : Value) : Eval Value := do
  let v ← unwrap v
  let count ← unwrap count
  let fill ← unwrap fill
  let size : Value := .int (← Eval.length v)
  if ← holds .le count size then
    let stop ← toPosition count
    slice v (Slice.upTo · stop)
  else
    let left ← sub count size
    let fillSize : Value := .int (← Eval.length fill)
    let times ← toInteger (← div left fillSize)
    let whole ← mul fill (.int times)
    let stop ← toPosition (← Eval.mod left fillSize)
    let filling ← add whole (← slice fill (Slice.upTo · stop))
    if ← truth toLeft then add filling v else add v filling

/-- Fills a text up to a length, on the left or on the right, or cuts it to that length. -/
def pad (toLeft v count fill : Value) : Eval Value := do
  if ← isAbsent v then return .null
  if ← isAbsent count then return .null
  if ← isAbsent fill then return .null
  if ← holds .le count (← wrap (.int 0)) then return .null
  let fill ← match fill with
    | .none => wrap (.text " ")
    | fill => pure fill
  filled toLeft v count fill

end BlockScript.Standard
