import BlockScript.Compile.Basic
import BlockScript.Decimal

namespace BlockScript.Compile

def operatorOf : String → Except Reject Operator
  | "=" => .ok (.comparison .eq)
  | "!=" | "<>" => .ok (.comparison .ne)
  | ">" => .ok (.comparison .gt)
  | ">=" => .ok (.comparison .ge)
  | "<" => .ok (.comparison .lt)
  | "<=" => .ok (.comparison .le)
  | "+" => .ok (.arithmetic .add)
  | "-" => .ok (.arithmetic .sub)
  | "*" => .ok (.arithmetic .mul)
  | "/" => .ok (.arithmetic .div)
  | _ => .error .unknownOperator

def numeral (text : String) : Except Reject Literal :=
  match Decimal.read? text with
  | none => .error .unreadable
  | some x =>
    match Decimal.toInt? x with
    | some n => .ok (.int n)
    | none => .ok (.float x)

def undouble : List Char → List Char
  | '\'' :: '\'' :: rest => '\'' :: undouble rest
  | c :: rest => c :: undouble rest
  | [] => []

def unquote (token : String) : String :=
  String.ofList (undouble (token.toList.drop 1).dropLast)

def quotedString (children : List (Tree Token)) : Except Reject Draft :=
  match children with
  | [.leaf t] =>
    if t.kind == .CHAR_STRING then .ok (.cell (.constant (.text (unquote t.text))))
    else .error .misplaced
  | _ => .error .misplaced

def wordConstant? (children : List (Tree Token)) : Option Draft :=
  if has children .TRUE then some (.cell (.constant (.bool true)))
  else if has children .FALSE then some (.cell (.constant (.bool false)))
  else if has children .NULL then some (.cell (.call (.ident "NULL") []))
  else none

def arithmetic? (children : List (Tree Token)) : Option Operator :=
  children.findSome? fun
    | .leaf t =>
      match t.kind with
      | .ASTERISK => some (.arithmetic .mul)
      | .SOLIDUS => some (.arithmetic .div)
      | .PLUS_SIGN => some (.arithmetic .add)
      | .MINUS_SIGN => some (.arithmetic .sub)
      | _ => none
    | .node .. => none

def concatenation (t : Tree Token) (parts : List Draft) : Except Reject (List Draft) :=
  if count t.children .BAR = 2 then .ok [.call (.ident "CONCAT") parts]
  else
    match parts with
    | [left, right] =>
      match arithmetic? t.children with
      | some operator => .ok [.binary left operator right]
      | none => .error .misplaced
    | [_] => .ok parts
    | _ => .error (.unsupported (.concatenation t.text))

def relational (parts : List Draft) : Except Reject Draft :=
  match parts with
  | [left, operator, right] => .ok (.compare left operator right)
  | part :: _ => .ok part
  | [] => .error .lacking

def logical (t : Tree Token) (parts : List Draft) : Except Reject Draft := do
  let operand ← head parts
  let has := has t.children
  let operand := if has .IS && has .NULL then .call (.ident "ISNULL") [operand] else operand
  let operand := if has .NOT then .call (.ident "NOT") [operand] else operand
  if parts.length = 1 then return operand
  else if has .AND then return .connect .both parts
  else if has .OR then return .connect .either parts
  else throw (.unsupported (.connective t.text))

def unary (children : List (Tree Token)) (parts : List Draft) : Except Reject (List Draft) := do
  let operand ← head parts
  match children with
  | first :: _ => return if first.text == "-" then [.negative operand] else parts
  | [] => return parts

def stringFunction (t : Tree Token) (parts : List Draft) : Except Reject Draft :=
  let call (name : String) := Draft.call (.member (.ident "PLGLOBALS") name) parts
  let has := has t.children
  if has .SUBSTR then .ok (call "SUBSTR")
  else if has .NVL then .ok (call "NVL")
  else if has .TO_CHAR then .ok (call "TO_CHAR")
  else if has .TRIM then .ok (call "TRIM")
  else .error (.unsupported (.stringFunction t.text))

def cursorAttribute (children : List (Tree Token)) (parts : List Draft) : Except Reject Draft := do
  let cursor ← head parts
  let has := has children
  let attr : Draft :=
    if has .PERCENT_ISOPEN then .text "ISOPEN"
    else if has .PERCENT_ROWCOUNT then .text "ROWCOUNT"
    else if has .PERCENT_FOUND then .text "FOUND"
    else if has .PERCENT_NOTFOUND then .text "NOTFOUND"
    else .missing
  return .call (.attribute cursor attr) []

/-- A dotted name with arguments or without. -/
def elementPart (children : List (Tree Token)) (parts : List Draft) : Compile Draft := do
  let names := namesOf children .idExpression
  let callee ← (← get).resolvePath names
  let arguments := if hasPhrase children .functionArgument then parts.drop names.length else []
  return .call callee arguments

def element (parts : List Draft) : Compile Draft := do
  let (value, rest) ← first parts
  set (← (← get).use value)
  match rest with
  | [] => return value
  | .call func _ :: _ => return .member value (← nameOf func)
  | part :: _ => unsupported (.element part)

def routineName (parts : List Draft) : Compile Draft := do
  let root ← nameOf (← head parts)
  let scope ← get
  let callee := scope.resolve root
  set (← scope.use callee)
  match parts with
  | _ :: method :: _ => return .attribute callee method
  | _ => return callee

def functionCall (parts : List Draft) : Except Reject Draft := do
  let (callee, arguments) ← first parts
  return .call callee arguments

/-- An assignment. A call on the left is an indexed element if it has arguments, else a variable. -/
def assignment (parts : List Draft) : Except Reject Draft := do
  let (target, rest) ← first parts
  let target := match target with
    | .call func (index :: _) => .subscript func index
    | .call func [] => func
    | other => other
  return .update target (rest.headD .missing)

end BlockScript.Compile
