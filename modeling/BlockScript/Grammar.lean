import BlockScript.Grammar.Script
import BlockScript.Grammar.StoredUnit
import BlockScript.Grammar.SchemaObject
import BlockScript.Grammar.Statement
import BlockScript.Grammar.Query
import BlockScript.Grammar.Expression
import BlockScript.Grammar.Name

/-!
The grammar: what each nonterminal stands for. Each part of the grammar gives the rules of its own
nonterminals and leaves the others to the next part.
-/

namespace BlockScript.Grammar

def phrase : Nonterminal → Phrase :=
  Script.rules <| StoredUnit.rules <| SchemaObject.rules <| Statement.rules <| Query.rules <|
    Expression.rules <| Name.rules fun _ => .empty

def production : Nonterminal → Production
  | .logicalExpression =>
    .climbing Expression.logicalExpressionOperand Expression.logicalExpressionOperators
  | .relationalExpression =>
    .climbing Expression.relationalExpressionOperand Expression.relationalExpressionOperators
  | .concatenation => .climbing Expression.concatenationOperand Expression.concatenationOperators
  | kind => .plain (phrase kind)

end BlockScript.Grammar
