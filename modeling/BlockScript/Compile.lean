import BlockScript.Compile.Declaration
import BlockScript.Compile.Expression
import BlockScript.Script

/-!
Compilation of a script to a draft of a program. Each phrase compiles to a list of drafts.
-/

namespace BlockScript.Compile

/-- Assembles a phrase whose children are compiled in the scope of the phrase. -/
def assemble (t : Tree Token) (kind : Nonterminal) (parts : List Draft) :
    Compile (List Draft) := do
  let children := t.children
  match kind with
  | .unitStatement => return parts.map Draft.asStatement
  | .anonymousBlock | .body => return body parts
  | .parameter => return [← parameter parts]
  | .raiseStatement => return [.raiseError (parts.headD .missing)]
  | .exceptionHandler => return [← handler parts]
  | .exceptionName =>
    let names ← parts.mapM fun part => (nameOf part : Except Reject String)
    return [← (← get).resolvePath names]
  | .statement => return [.expr (← head parts)]
  | .loopStatement => return [← loop children parts]
  | .cursorLoopParam => return [← countingLoop parts]
  | .continueStatement => return [← jump .continueLoop children parts]
  | .exitStatement => return [← jump .breakLoop children parts]
  | .assignmentStatement => return [← assignment parts]
  | .simpleCaseStatement => return [← selectedCase parts]
  | .searchedCaseStatement => return [← searchedCase parts]
  | .ifStatement => return [← branch parts]
  | .elsifPart | .simpleCaseWhenPart | .searchedCaseWhenPart => return .elsifMark :: parts
  | .elsePart | .caseElsePart => return .elseMark :: parts
  | .executeImmediate => return [← dynamicQuery parts]
  | .functionCall => return [← functionCall parts]
  | .routineName => return [← routineName parts]
  | .seqOfDeclareSpecs =>
    modify (·.declareAll (← declaredNames parts))
    return parts
  | .openStatement => return [← openCursor parts]
  | .fetchStatement => return [← fetch parts]
  | .closeStatement => return [← closeCursor parts]
  | .variableDeclaration => return [← variableOf parts]
  | .returnStatement => return [.returnValue (parts.headD .missing)]
  | .concatenation => concatenation t parts
  | .relationalExpression => return [← relational parts]
  | .logicalExpression => return [← logical t parts]
  | .subtypeDeclaration => return [← subtypeOf parts]
  | .typeDeclaration => return [← typeDeclaration children parts]
  | .stringFunction => return [← stringFunction t parts]
  | .otherFunction => return [← cursorAttribute children parts]
  | .generalElement => return [← element parts]
  | .generalElementPart => return [← elementPart children parts]
  | .unaryExpression => unary children parts
  | _ => return parts

mutual
/-- What a tree of a source compiles to. -/
def compile (source : String) : Tree Token → Compile (List Draft)
  | .leaf _ => return []
  | .node kind children => do
    let t : Tree Token := .node kind children
    match kind with
    | .functionSpec | .procedureSpec | .fieldSpec => return []
    | .nullStatement => return [.pass]
    | .regularId => return [.ident t.capitals]
    | .numeric => return [.cell (.constant (← numeral t.text))]
    | .quotedString => return [← quotedString children]
    | .relationalOperator => return [.operator (← operatorOf t.text)]
    | .typeName => return [← typeName children]
    | .transactionControlStatements => return [← transaction t]
    | .pragmaDeclaration =>
      if has children .AUTONOMOUS_TRANSACTION then
        return [.call (.member (.ident "PLCURSOR") "AUTONOMOUS_TRANSACTION") []]
      else return []
    | .dataManipulationLanguageStatements =>
      let (query, references) ← Embedded.query source (← get).declared t
      return [execution query references]
    | .selectStatement =>
      let (query, references) ← Embedded.query source (← get).declared t
      return .query query :: references.map .reference
    | .constant =>
      match wordConstant? children with
      | some value => return [value]
      | none => compileAll source children
    | .typeSpec =>
      if has children .PERCENT_TYPE then return []
      else if has children .PERCENT_ROWTYPE then
        modify (·.require "PLRECORD")
        return [.typeMark (.ident "PLRECORD")]
      else if hasPhrase children .typeName then
        return [.typeMark (← head (← compileAll source children))]
      else return []
    | .executeImmediate =>
      if hasPhrase children .usingClause || hasPhrase children .dynamicReturningClause then
        unsupported (.dynamicQuery t.text)
      else assemble t kind (← compileAll source children)
    | .cursorLoopParam =>
      match namesOf children .indexName with
      | index :: _ =>
        modify (·.declare index)
        assemble t kind (← compileAll source children)
      | [] => reject .misplaced
    | .cursorDeclaration =>
      let parameters ← cursorParameters source children
      let (parts, _) ← within ((← get).cursor parameters) (compileAll source children)
      let (name, cursor) ← cursor parameters parts
      modify (·.declare name)
      return [cursor]
    | .procedureBody | .functionBody =>
      let inner := (← get).routine.declareAll (parameterNames children)
      let (parts, inner) ← within inner (compileAll source children)
      let (name, function) ← routine parts
      modify fun s => (s.declare name).requireAll inner.imports
      return [function]
    | .createProcedureBody | .createFunctionBody =>
      let (parts, _) ← within (← get).standalone (compileAll source children)
      let (name, function) ← standalone parts
      modify (·.declare name)
      return [function]
    | .createPackage =>
      modify (·.enterSpecification)
      let (specification, names) ← specification (← compileAll source children)
      modify (·.declareAll names)
      return [specification]
    | .createPackageBody =>
      match namesOf children .packageName with
      | name :: _ =>
        modify (·.enterBody name)
        return [packageBody name (← compileAll source children)]
      | [] => reject .lacking
    | .sqlScript =>
      let units ← compileAll source children
      modify (·.requireAll alwaysImported)
      return [.program (imports [] (← get).imports ++ units)]
    | _ => assemble t kind (← compileAll source children)

def compileAll (source : String) : List (Tree Token) → Compile (List Draft)
  | [] => return []
  | t :: rest => do
    let parts ← compile source t
    return parts ++ (← compileAll source rest)

def cursorParameters (source : String) : List (Tree Token) → Compile (List String)
  | [] => return []
  | .node .parameterSpec children :: rest => do
    let name ← nameOf (← head (← compileAll source children))
    return name :: (← cursorParameters source rest)
  | _ :: rest => cursorParameters source rest

end

def script (s : Script) : Except Reject Draft := do
  let (parts, _) ← (compile s.text s.tree).run {}
  head parts

end BlockScript.Compile
