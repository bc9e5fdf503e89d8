import BlockScript.Target.Syntax

/-!
The names of a piece of a program: those that it binds, and those that it uses.
-/

namespace BlockScript.Target

mutual
def Expr.used : Expr → List String
  | .name id => [id]
  | .attribute value _ => value.used
  | .call func args => func.used ++ usedInAll args
  | .constant _ => []
  | .binary left _ right | .compare left _ right | .subscript left right => left.used ++ right.used
  | .compareBoth left _ middle _ right => left.used ++ middle.used ++ right.used
  | .connect _ operands | .list operands => usedInAll operands
  | .negative operand => operand.used

def usedInAll : List Expr → List String
  | [] => []
  | e :: rest => e.used ++ usedInAll rest
end

def Place.used : Place → List String
  | .name id => [id]
  | .attribute value _ => value.used
  | .subscript value index => value.used ++ index.used

def usedIn? : Option Expr → List String
  | some e => e.used
  | none => []

mutual
def Stmt.bound : Stmt → List String
  | .assign target _ => [target]
  | .update (.name target) _ => [target]
  | .branch _ body orelse => boundInAll body ++ boundInAll orelse
  | .whileLoop _ body => boundInAll body
  | .forLoop target _ body => target :: boundInAll body
  | .guard body handlers => boundInAll body ++ boundInHandlers handlers
  | .function name .. | .classDef name .. => [name]
  | _ => []

def boundInAll : List Stmt → List String
  | [] => []
  | s :: rest => s.bound ++ boundInAll rest

def boundInHandlers : List Handler → List String
  | [] => []
  | .mk _ body :: rest => boundInAll body ++ boundInHandlers rest
end

mutual
def Stmt.used : Stmt → List String
  | .expr value | .assign _ value => value.used
  | .update target value => target.used ++ value.used
  | .pass | .breakLoop | .continueLoop | .importAll _ => []
  | .branch test body orelse => test.used ++ usedInStmts body ++ usedInStmts orelse
  | .whileLoop test body => test.used ++ usedInStmts body
  | .forLoop _ range body => range.used ++ usedInStmts body
  | .raiseError exception => usedIn? exception
  | .returnValue value => usedIn? value
  | .guard body handlers => usedInStmts body ++ usedInHandlers handlers
  | .function _ parameters _ body =>
    (usedInStmts body).filter fun name => !(parameters ++ boundInAll body).contains name
  | .classDef _ bases body => bases ++ usedInStmts body

def usedInStmts : List Stmt → List String
  | [] => []
  | s :: rest => s.used ++ usedInStmts rest

def usedInHandlers : List Handler → List String
  | [] => []
  | .mk exception body :: rest => exception.used ++ usedInStmts body ++ usedInHandlers rest
end

end BlockScript.Target
