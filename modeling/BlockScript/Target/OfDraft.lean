import BlockScript.Target.Syntax

/-!
From drafts to programs. A draft is written out as text and must then be a program.
-/

namespace BlockScript

inductive Unprintable where
  /-- It cannot be written. -/
  | unwritable
  /-- It can be written, but the text is no program. -/
  | illFormed
deriving DecidableEq, Repr

namespace Target

/-- Drafts that have a place in the table of operators without being one: as an operator they leave
nothing but a gap in the text. -/
def isGap : Draft → Bool
  | .assign .. | .update .. | .expr _ | .branch .. | .forLoop .. | .whileLoop .. | .returnValue _
  | .raiseError _ | .subscript .. | .constant _ => true
  | _ => false

mutual
/-- Whether a draft can be written: no marks are left over, and operators stand only between what
they compare. -/
def writable : Draft → Bool
  | .typeMark _ | .elsifMark | .elseMark | .query _ | .reference _ | .operator _ => false
  | .missing | .text _ | .constant _ | .pass | .continueLoop | .breakLoop | .importAll _ => true
  | .name d | .negative d | .expr d | .raiseError d | .returnValue d | .parameter d => writable d
  | .attribute a b | .binary a _ b | .subscript a b | .update a b | .assign a b =>
    writable a && writable b
  | .compare a op b =>
    writable a && writable b &&
      match op with
      | .operator _ => true
      | op => isGap op
  | .call d ds | .whileLoop d ds | .handler d ds => writable d && writableAll ds
  | .connect _ ds | .list ds | .program ds => writableAll ds
  | .branch d ds es => writable d && writableAll ds && writableAll es
  | .forLoop a b ds => writable a && writable b && writableAll ds
  | .guard ds es | .classDef _ ds es => writableAll ds && writableAll es
  | .function _ ds es fs => writableAll ds && writableAll es && writableAll fs

def writableAll : List Draft → Bool
  | [] => true
  | d :: ds => writable d && writableAll ds
end

def isIdentifier (s : String) : Bool :=
  match s.toList with
  | [] => false
  | c :: cs => (c.isAlpha || c == '_') && cs.all fun c => c.isAlphanum || c == '_'

def adjoined : List Char → Option (List Char)
  | [] => some []
  | '"' :: rest =>
    let inner := rest.takeWhile (· != '"')
    match h : rest.dropWhile (· != '"') with
    | '"' :: more =>
      have : more.length < rest.length + 1 := by
        have := congrArg List.length h
        have := (List.dropWhile_sublist (p := (· != '"')) (l := rest)).length_le
        simp_all
        omega
      (adjoined more).map (inner ++ ·)
    | _ => none
  | _ :: _ => none
termination_by cs => cs.length

def nameExpr (s : String) : Option Expr :=
  if isIdentifier s then some (.name s)
  else if s.startsWith "\"" && !s.toList.contains '\\' then
    (adjoined s.toList).map fun content => .constant (.text (String.ofList content))
  else none

def label? : Draft → Option String
  | .text s => some s
  | .name d => label? d
  | _ => none

def identifier? (d : Draft) : Option String := do
  let s ← label? d
  if isIdentifier s then some s else none

/-- A comparison whose left side is a comparison is written without parentheses when it was meant as
an operation, so the two become one. -/
def compareWith (left : Expr) (operator : Comparison) (right : Expr) : Expr :=
  match left with
  | .compare a first b => .compareBoth a first b operator right
  | left => .compare left operator right

mutual
def toExpr : Draft → Option Expr
  | .name d => do nameExpr (← label? d)
  | .parameter d => do nameExpr (← label? d)
  | .attribute value attr => do return .attribute (← toExpr value) (← identifier? attr)
  | .call func args => do return .call (← toExpr func) (← toExprs args)
  | .constant value => some (.constant value)
  | .binary left (.arithmetic op) right => do return .binary (← toExpr left) op (← toExpr right)
  | .binary left (.comparison op) right => do
    return compareWith (← toExpr left) op (← toExpr right)
  | .connect connective operands => do return .connect connective (← toExprs operands)
  | .negative operand => do return .negative (← toExpr operand)
  | .compare left (.operator (.comparison op)) right => do
    return .compare (← toExpr left) op (← toExpr right)
  | .list items => do return .list (← toExprs items)
  | .subscript value index => do return .subscript (← toExpr value) (← toExpr index)
  | _ => none

def toExprs : List Draft → Option (List Expr)
  | [] => some []
  | d :: ds => do return (← toExpr d) :: (← toExprs ds)
end

theorem toExpr_ident {name : String} (plain : isIdentifier name = true) :
    toExpr (.ident name) = some (.name name) := by
  simp [Draft.ident, toExpr, label?, nameExpr, plain]

def toPlace (d : Draft) : Option Place := do
  match ← toExpr d with
  | .name id => return .name id
  | .attribute value attr => return .attribute value attr
  | .subscript value index => return .subscript value index
  | _ => none

def isBare : Draft → Bool
  | .name _ | .attribute .. | .call .. | .constant _ | .binary .. | .connect .. | .negative _
  | .compare .. | .list _ | .subscript .. | .parameter _ => true
  | _ => false

def replaceHead (f : String → Expr) : Expr → Option Expr
  | .name id => some (f id)
  | .attribute value attr => do return .attribute (← replaceHead f value) attr
  | .call func args => do return .call (← replaceHead f func) args
  | .subscript value index => do return .subscript (← replaceHead f value) index
  | _ => none

def run (first second : Expr) : Option Expr :=
  match first with
  | .name id => replaceHead (fun next => .name (id ++ next)) second
  | .attribute value attr => replaceHead (fun next => .attribute value (attr ++ next)) second
  | _ => none

def runWord (word : String) (second : Expr) : Option Stmt :=
  (replaceHead (fun next => .name (word ++ next)) second).map .expr

mutual
def runInto (e : Expr) : Stmt → Option Stmt
  | .expr value => do return .expr (← run value e)
  | .assign target value => do return .assign target (← run value e)
  | .update target value => do return .update target (← run value e)
  | .pass => runWord "pass" e
  | .breakLoop => runWord "break" e
  | .continueLoop => runWord "continue" e
  | .raiseError none => runWord "raise" e
  | .raiseError (some value) => do return .raiseError (← run value e)
  | .returnValue none => runWord "return" e
  | .returnValue (some value) => do return .returnValue (← run value e)
  | .branch test body [] => do return .branch test (← runIntoLast e body) []
  | .branch test body orelse => do return .branch test body (← runIntoLast e orelse)
  | .whileLoop test body => do return .whileLoop test (← runIntoLast e body)
  | .forLoop target range body => do return .forLoop target range (← runIntoLast e body)
  | .guard body handlers => do return .guard body (← runIntoHandlers e handlers)
  | .function name parameters isStatic body => do
    return .function name parameters isStatic (← runIntoLast e body)
  | .classDef name bases body => do return .classDef name bases (← runIntoLast e body)
  | .importAll _ => none

def runIntoLast (e : Expr) : List Stmt → Option (List Stmt)
  | [] => none
  | [s] => do return [← runInto e s]
  | s :: rest => do return s :: (← runIntoLast e rest)

def runIntoHandlers (e : Expr) : List Handler → Option (List Handler)
  | [] => none
  | [.mk exception body] => do return [.mk exception (← runIntoLast e body)]
  | h :: rest => do return h :: (← runIntoHandlers e rest)
end

inductive Written where
  | nothing
  | behindHeader (e : Expr)
  | lines (before : List Stmt) (last : Stmt)

def endsLine : Stmt → Bool
  | .function .. | .classDef .. => true
  | _ => false

def Written.bare (outermost : Bool) (e : Expr) : Written → Option Written
  | .nothing => some (.behindHeader e)
  | .behindHeader first => (run first e).map .behindHeader
  | .lines before last =>
    if outermost && endsLine last then some (.lines (before ++ [last]) (.expr e))
    else (runInto e last).map (.lines before)

def Written.line (s : Stmt) : Written → Option Written
  | .nothing => some (.lines [] s)
  | .behindHeader _ => none
  | .lines before last => some (.lines (before ++ [last]) s)

def Written.finish : Written → Option (List Stmt)
  | .nothing => none
  | .behindHeader e => some [.expr e]
  | .lines before last => some (before ++ [last])

mutual
/-- The statements that a draft on a line of its own is written as. -/
def toStmts : Draft → Option (List Stmt)
  | .expr d => if isBare d then do return [.expr (← toExpr d)] else toStmts d
  | .assign target value => do return [.assign (← identifier? target) (← toExpr value)]
  | .update target value => do return [.update (← toPlace target) (← toExpr value)]
  | .pass => some [.pass]
  | .breakLoop => some [.breakLoop]
  | .continueLoop => some [.continueLoop]
  | .branch test body [] => do return [.branch (← toExpr test) (← toBody .nothing body) []]
  | .branch test body orelse => do
    return [.branch (← toExpr test) (← toBody .nothing body) (← toBody .nothing orelse)]
  | .whileLoop test body => do return [.whileLoop (← toExpr test) (← toBody .nothing body)]
  | .forLoop target range body => do
    return [.forLoop (← identifier? target) (← toExpr range) (← toBody .nothing body)]
  | .raiseError .missing => some [.raiseError none]
  | .raiseError exception => do return [.raiseError (some (← toExpr exception))]
  | .returnValue .missing => some [.returnValue none]
  | .returnValue value =>
    if isBare value then do return [.returnValue (some (← toExpr value))]
    else do return .returnValue none :: (← toStmts value)
  | .guard body handlers => do return [.guard (← toBody .nothing body) (← toHandlers handlers)]
  | .function name parameters body decorators => do
    guard (isIdentifier name)
    return [.function name (← parameters.mapM identifierOfParameter) (!decorators.isEmpty)
      (← toBody .nothing body)]
  | .classDef name body bases => do
    guard (isIdentifier name)
    return [.classDef name (← bases.mapM identifier?) (← toBody .nothing body)]
  | .importAll source => do
    guard (isIdentifier source)
    return [.importAll source]
  | _ => none
where
  identifierOfParameter : Draft → Option String
    | .parameter d => identifier? d
    | _ => none

def toBody (written : Written) : List Draft → Option (List Stmt)
  | [] => written.finish
  | d :: rest =>
    if isBare d then do toBody (← written.bare false (← toExpr d)) rest
    else do toBody (← (← toStmts d).foldlM (fun w s => w.line s) written) rest

def toHandlers : List Draft → Option (List Handler)
  | [] => some []
  | .handler exception body :: rest => do
    return .mk (← toExpr exception) (← toBody .nothing body) :: (← toHandlers rest)
  | _ :: _ => none
end

def toOutermost (written : Written) : List Draft → Option (List Stmt)
  | [] => written.finish
  | d :: rest =>
    if isBare d then do toOutermost (← written.bare true (← toExpr d)) rest
    else do toOutermost (← (← toStmts d).foldlM (fun w s => w.line s) written) rest

def ofDraft : Draft → Except Unprintable Program
  | .program body =>
    if !writableAll body then .error .unwritable
    else
      match toOutermost .nothing body with
      | some stmts => .ok ⟨stmts⟩
      | none => .error .illFormed
  | _ => .error .illFormed

end Target
end BlockScript
