import BlockScript.Target.Syntax

/-!
What a program must keep to beyond its syntax: jumps stand in loops, results are returned from
routines, and the parameters of a routine have different names.
-/

namespace BlockScript.Target

mutual
def Stmt.isWellPlaced (inLoop inRoutine : Bool) : Stmt → Bool
  | .breakLoop | .continueLoop => inLoop
  | .returnValue _ => inRoutine
  | .branch _ body orelse =>
    areWellPlaced inLoop inRoutine body && areWellPlaced inLoop inRoutine orelse
  | .whileLoop _ body | .forLoop _ _ body => areWellPlaced true inRoutine body
  | .guard body handlers =>
    areWellPlaced inLoop inRoutine body && handlersAreWellPlaced inLoop inRoutine handlers
  | .function _ parameters _ body => parameters.Nodup && areWellPlaced false true body
  | .classDef _ _ body => areWellPlaced false false body
  | _ => true

def areWellPlaced (inLoop inRoutine : Bool) : List Stmt → Bool
  | [] => true
  | s :: rest => s.isWellPlaced inLoop inRoutine && areWellPlaced inLoop inRoutine rest

def handlersAreWellPlaced (inLoop inRoutine : Bool) : List Handler → Bool
  | [] => true
  | .mk _ body :: rest =>
    areWellPlaced inLoop inRoutine body && handlersAreWellPlaced inLoop inRoutine rest
end

def Program.isWellPlaced (p : Program) : Bool := areWellPlaced false false p.body

end BlockScript.Target
