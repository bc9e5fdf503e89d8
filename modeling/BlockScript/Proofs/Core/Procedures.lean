import BlockScript.Proofs.Core.Program
import BlockScript.Proofs.RoutinePieces

/-!
Procedures over the imperative core and their calls. A procedure becomes a routine of the target
that first binds its local variables; a call passes what its actual parameters give.
-/

namespace BlockScript.Core
open Compile Target

structure Procedure where
  name : String
  parameters : List String
  locals : List (String × Initial)
  body : List Command

namespace Procedure

def vars (p : Procedure) : List String := p.parameters ++ p.locals.map (·.1)

def names (p : Procedure) : List String := p.vars ++ indicesOf p.body

structure WellFormed (p : Procedure) : Prop where
  distinct : p.vars.Nodup
  visible : areScoped p.vars [] false p.body = true
  unreserved : "NOT" ∉ p.names

def code (p : Procedure) : List Stmt := p.locals.map declarationTarget ++ targets p.body

end Procedure

def declaring (ds : List (Tree Token)) : List (Tree Token) :=
  if ds.isEmpty then [] else [.node .seqOfDeclareSpecs ds]

inductive SpellsActual : Tree Token → Arith → Prop where
  | value (spelled : SpellsArith t e) : SpellsActual t e
  | rung (known : kind ∈ rungs) (inner : SpellsActual t e) : SpellsActual (.node kind [t]) e
  | parentheses (opening : IsLeaf .LEFT_PAREN l) (inner : SpellsActual t e)
      (closing : IsLeaf .RIGHT_PAREN r) : SpellsActual (.node .atom [l, t, r]) e
  | plus (token : Token) (is : token.kind = .PLUS_SIGN) (sign : token.text = "+")
      (operand : SpellsActual t e) : SpellsActual (.node .unaryExpression [.leaf token, t]) e

section

variable {src : String} {s : Scope} {names : List String} {name : String}

def Procedure.draft (p : Procedure) (parts : List Draft) : Draft :=
  .function p.name (p.parameters.map fun name => .parameter (.ident name))
    (p.locals.map (fun d => .expr (declarationDraft d)) ++ parts) []

lemma SpellsActual.isOperand (spelled : SpellsActual t e) : IsOperand t := by
  induction spelled with
  | value spelled => exact spelled.isOperand
  | rung known inner ih => exact ih.within [] []
  | parentheses opening inner closing ih => exact ih.within [_] [_]
  | plus token is sign operand ih => exact ih.within [_] []

end

variable {p : Procedure}

end BlockScript.Core
