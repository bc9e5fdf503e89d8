import BlockScript.Decimal
import BlockScript.Target.Syntax
import BlockScript.Text.Quoted

namespace BlockScript.Target

inductive Level where
  | whole | either | both | negation | comparison | union | exclusion | intersection | shift | sum
  | product | sign | power | waiting | atom
deriving DecidableEq, Repr

namespace Level

def rank : Level → Nat
  | whole => 0 | either => 1 | both => 2 | negation => 3 | comparison => 4 | union => 5
  | exclusion => 6 | intersection => 7 | shift => 8 | sum => 9 | product => 10 | sign => 11
  | power => 12 | waiting => 13 | atom => 14

def next : Level → Level
  | whole => either | either => both | both => negation | negation => comparison
  | comparison => union | union => exclusion | exclusion => intersection | intersection => shift
  | shift => sum | sum => product | product => sign | sign => power | power => waiting
  | waiting => atom | atom => atom

end Level

def symbol : Arithmetic → String
  | .add => "+"
  | .sub => "-"
  | .mul => "*"
  | .div => "/"

def comparisonSymbol : Comparison → String
  | .eq => "=="
  | .ne => "!="
  | .gt => ">"
  | .ge => ">="
  | .lt => "<"
  | .le => "<="

def connectiveSymbol : Connective → String
  | .both => "and"
  | .either => "or"

def arithmeticLevel : Arithmetic → Level
  | .add | .sub => .sum
  | .mul | .div => .product

def connectiveLevel : Connective → Level
  | .both => .both
  | .either => .either

def floatText (x : Float) : String :=
  if x.isNaN then "(1e309-1e309)"
  else if x.isInf then (if x < 0 then "-1e309" else "1e309")
  else Decimal.render x

def literalText : Literal → String
  | .bool true => "True"
  | .bool false => "False"
  | .int n => toString n
  | .float x => floatText x
  | .text s => Quoted.write s

def enclose (place level : Level) (s : String) : String :=
  if level.rank < place.rank then "(" ++ s ++ ")" else s

def isWhole : Literal → Bool
  | .int _ | .bool _ => true
  | _ => false

mutual
def exprText (place : Level) : Expr → String
  | .name id => id
  | .attribute (.constant value) attr =>
    literalText value ++ (if isWhole value then " ." else ".") ++ attr
  | .attribute value attr => exprText .atom value ++ "." ++ attr
  | .call func args => exprText .atom func ++ "(" ++ ", ".intercalate (exprTexts args) ++ ")"
  | .constant value => literalText value
  | .binary left operator right =>
    let level := arithmeticLevel operator
    enclose place level
      (exprText level left ++ " " ++ symbol operator ++ " " ++ exprText level.next right)
  | .compare left operator right =>
    enclose place .comparison
      (exprText Level.comparison.next left ++ " " ++ comparisonSymbol operator ++ " " ++
        exprText Level.comparison.next right)
  | .compareBoth left first middle second right =>
    enclose place .comparison
      (exprText Level.comparison.next left ++ " " ++ comparisonSymbol first ++ " " ++
        exprText Level.comparison.next middle ++ " " ++ comparisonSymbol second ++ " " ++
        exprText Level.comparison.next right)
  | .connect connective operands =>
    let level := connectiveLevel connective
    enclose place level
      ((" " ++ connectiveSymbol connective ++ " ").intercalate (operandTexts level operands))
  | .negative operand => enclose place .sign ("-" ++ exprText .sign operand)
  | .list items => "[" ++ ", ".intercalate (exprTexts items) ++ "]"
  | .subscript value index => exprText .atom value ++ "[" ++ exprText .whole index ++ "]"

def exprTexts : List Expr → List String
  | [] => []
  | e :: rest => exprText .whole e :: exprTexts rest

def operandTexts (level : Level) : List Expr → List String
  | [] => []
  | e :: rest => exprText level.next e :: operandTexts level.next rest
end

def placeText : Place → String
  | .name id => id
  | .attribute value attr => exprText .whole (.attribute value attr)
  | .subscript value index => exprText .whole (.subscript value index)

def pad (depth : Nat) : String := String.ofList (List.replicate (4 * depth) ' ')

mutual
def stmtLines (depth : Nat) : Stmt → List String
  | .expr value => [pad depth ++ exprText .whole value]
  | .assign target value => [pad depth ++ target ++ " = " ++ exprText .whole value]
  | .update target value => [pad depth ++ placeText target ++ " <<= " ++ exprText .whole value]
  | .pass => [pad depth ++ "pass"]
  | .breakLoop => [pad depth ++ "break"]
  | .continueLoop => [pad depth ++ "continue"]
  | .branch test body orelse =>
    (pad depth ++ "if " ++ exprText .whole test ++ ":") :: bodyLines (depth + 1) body ++
      elseLines depth orelse
  | .whileLoop test body =>
    (pad depth ++ "while " ++ exprText .whole test ++ ":") :: bodyLines (depth + 1) body
  | .forLoop target range body =>
    (pad depth ++ "for " ++ target ++ " in " ++ exprText .whole range ++ ":") ::
      bodyLines (depth + 1) body
  | .raiseError none => [pad depth ++ "raise"]
  | .raiseError (some exception) => [pad depth ++ "raise " ++ exprText .whole exception]
  | .returnValue none => [pad depth ++ "return"]
  | .returnValue (some value) => [pad depth ++ "return " ++ exprText .whole value]
  | .guard body handlers =>
    (pad depth ++ "try:") :: bodyLines (depth + 1) body ++ handlerLines depth handlers
  | .function name parameters isStatic body =>
    [""] ++ (if isStatic then [pad depth ++ "@staticmethod"] else []) ++
      (pad depth ++ "def " ++ name ++ "(" ++ ", ".intercalate parameters ++ "):") ::
        bodyLines (depth + 1) body
  | .classDef name bases body =>
    "" :: (pad depth ++ "class " ++ name ++
        (if bases.isEmpty then "" else "(" ++ ", ".intercalate bases ++ ")") ++ ":") ::
      bodyLines (depth + 1) body
  | .importAll source => [pad depth ++ "from " ++ source ++ " import *"]

def bodyLines (depth : Nat) : List Stmt → List String
  | [] => []
  | s :: rest => stmtLines depth s ++ bodyLines depth rest

def elseLines (depth : Nat) : List Stmt → List String
  | [] => []
  | [.branch test body orelse] =>
    (pad depth ++ "elif " ++ exprText .whole test ++ ":") ::
      bodyLines (depth + 1) body ++ elseLines depth orelse
  | s :: rest =>
    (pad depth ++ "else:") :: (stmtLines (depth + 1) s ++ bodyLines (depth + 1) rest)

def handlerLines (depth : Nat) : List Handler → List String
  | [] => []
  | .mk exception body :: rest =>
    (pad depth ++ "except " ++ exprText .whole exception ++ ":") ::
      bodyLines (depth + 1) body ++ handlerLines depth rest
end

def Program.lines (p : Program) : List String :=
  match bodyLines 0 p.body with
  | "" :: rest => rest
  | lines => lines

end BlockScript.Target
