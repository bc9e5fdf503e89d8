import BlockScript.Draft

namespace BlockScript.Target

inductive Expr where
  | name (id : String)
  | attribute (value : Expr) (attr : String)
  | call (func : Expr) (args : List Expr)
  | constant (value : Literal)
  | binary (left : Expr) (operator : Arithmetic) (right : Expr)
  | compare (left : Expr) (operator : Comparison) (right : Expr)
  /-- A comparison of three: the middle one is compared with both others. -/
  | compareBoth (left : Expr) (first : Comparison) (middle : Expr) (second : Comparison)
      (right : Expr)
  | connect (connective : Connective) (operands : List Expr)
  | negative (operand : Expr)
  | list (items : List Expr)
  | subscript (value index : Expr)
deriving Inhabited

inductive Place where
  | name (id : String)
  | attribute (value : Expr) (attr : String)
  | subscript (value index : Expr)
deriving Inhabited

mutual
inductive Stmt where
  | expr (value : Expr)
  | assign (target : String) (value : Expr)
  /-- The in-place update that assignments are compiled to. -/
  | update (target : Place) (value : Expr)
  | pass
  | breakLoop
  | continueLoop
  | branch (test : Expr) (body orelse : List Stmt)
  | whileLoop (test : Expr) (body : List Stmt)
  | forLoop (target : String) (range : Expr) (body : List Stmt)
  | raiseError (exception : Option Expr)
  | returnValue (value : Option Expr)
  | guard (body : List Stmt) (handlers : List Handler)
  | function (name : String) (parameters : List String) (isStatic : Bool) (body : List Stmt)
  | classDef (name : String) (bases : List String) (body : List Stmt)
  | importAll (source : String)

inductive Handler where
  | mk (exception : Expr) (body : List Stmt)
end

instance : Inhabited Stmt := ⟨.pass⟩

structure Program where
  body : List Stmt

end BlockScript.Target
