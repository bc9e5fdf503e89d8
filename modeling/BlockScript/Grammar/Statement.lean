import BlockScript.Grammar.Phrase

/-!
Blocks: the items they declare, and their statements.
-/

namespace BlockScript.Grammar.Statement
open Phrase Terminal Nonterminal

def rules (others : Nonterminal → Phrase) : Nonterminal → Phrase
  | .anonymousBlock =>
    opt (DECLARE*seqOfDeclareSpecs)*BEGIN*seqOfStatements*opt (EXCEPTION*plus exceptionHandler)*END*
    SEMICOLON
  | .invokerRightsClause => AUTHID*anyOf [CURRENT_USER, DEFINER]
  | .compilerParametersClause => identifier*EQUALS_OP*expression
  | .callSpec => LANGUAGE*(javaSpec + cSpec)
  | .javaSpec => JAVA*NAME*CHAR_STRING
  | .cSpec =>
    C_LETTER*opt (NAME*CHAR_STRING)*LIBRARY*identifier*opt cAgentInClause*opt (WITH*CONTEXT)*
    opt cParametersClause
  | .cAgentInClause => AGENT*IN*parens expressions
  | .cParametersClause => PARAMETERS*parens (expressions + PERIOD*PERIOD*PERIOD)
  | .parameter =>
    parameterName*star (anyOf [IN, OUT, INOUT, NOCOPY])*opt typeSpec*opt defaultValuePart
  | .defaultValuePart => anyOf [ASSIGN_OP, DEFAULT]*expression
  | .seqOfDeclareSpecs => plus declareSpec
  | .declareSpec =>
    pragmaDeclaration + variableDeclaration + subtypeDeclaration + cursorDeclaration +
    exceptionDeclaration + typeDeclaration + procedureSpec + functionSpec + procedureBody +
    functionBody
  | .variableDeclaration =>
    identifier*opt CONSTANT*typeSpec*opt (NOT*NULL)*opt defaultValuePart*SEMICOLON
  | .subtypeDeclaration =>
    SUBTYPE*identifier*IS*typeSpec*opt (RANGE*expression*DOUBLE_PERIOD*expression)*opt (NOT*NULL)*
    SEMICOLON
  | .cursorDeclaration =>
    CURSOR*identifier*opt (parens (series parameterSpec))*opt (RETURN*typeSpec)*opt (IS*
    selectStatement)*SEMICOLON
  | .parameterSpec => parameterName*opt (opt IN*typeSpec)*opt defaultValuePart
  | .exceptionDeclaration => identifier*EXCEPTION*SEMICOLON
  | .pragmaDeclaration =>
    PRAGMA*(SERIALLY_REUSABLE + AUTONOMOUS_TRANSACTION + EXCEPTION_INIT*parens (exceptionName*COMMA*
    numericNegative) + INLINE*parens (identifier*COMMA*expression) + RESTRICT_REFERENCES*
    parens ((identifier + DEFAULT)*plus (COMMA*identifier)))*SEMICOLON
  | .recordTypeDef => RECORD*parens (series fieldSpec)
  | .fieldSpec => columnName*opt typeSpec*opt (NOT*NULL)*opt defaultValuePart
  | .refCursorTypeDef => REF*CURSOR*opt (RETURN*typeSpec)
  | .typeDeclaration =>
    TYPE*identifier*IS*(tableTypeDef + varrayTypeDef + recordTypeDef + refCursorTypeDef)*SEMICOLON
  | .tableTypeDef => TABLE*OF*typeSpec*opt tableIndexedByPart*opt (NOT*NULL)
  | .tableIndexedByPart => anyOf [INDEXED, INDEX]*BY*typeSpec
  | .varrayTypeDef => (VARRAY + VARYING*ARRAY)*parens expression*OF*typeSpec*opt (NOT*NULL)
  | .seqOfStatements => plus (statement*anyOf [SEMICOLON, EOF] + labelDeclaration)
  | .labelDeclaration => LESS_THAN_OP*LESS_THAN_OP*labelName*GREATER_THAN_OP*GREATER_THAN_OP
  | .statement =>
    CREATE*swallowToSemi + TRUNCATE*swallowToSemi + body + block + assignmentStatement +
    continueStatement + exitStatement + gotoStatement + ifStatement + loopStatement +
    forallStatement + nullStatement + raiseStatement + returnStatement + caseStatement +
    sqlStatement + functionCall + pipeRowStatement
  | .swallowToSemi => plus (noneOf [SEMICOLON])
  | .assignmentStatement => (generalElement + bindVariable)*ASSIGN_OP*expression
  | .continueStatement => CONTINUE*opt labelName*opt (WHEN*condition)
  | .exitStatement => EXIT*opt labelName*opt (WHEN*condition)
  | .gotoStatement => GOTO*labelName
  | .ifStatement => IF*condition*THEN*seqOfStatements*star elsifPart*opt elsePart*END*IF
  | .elsifPart => ELSIF*condition*THEN*seqOfStatements
  | .elsePart => ELSE*seqOfStatements
  | .loopStatement =>
    opt labelDeclaration*opt (WHILE*condition + FOR*cursorLoopParam)*LOOP*seqOfStatements*END*LOOP*
    opt labelName
  | .cursorLoopParam =>
    indexName*IN*opt REVERSE*lowerBound*DOUBLE_PERIOD*upperBound + recordName*IN*(cursorName*
    opt (parens (opt expressions)) + parens selectStatement)
  | .forallStatement => FORALL*indexName*IN*boundsClause*sqlStatement*opt (SAVE*EXCEPTIONS)
  | .boundsClause =>
    lowerBound*DOUBLE_PERIOD*upperBound + INDICES*OF*collectionName*opt betweenBound + VALUES*OF*
    indexName
  | .betweenBound => BETWEEN*lowerBound*AND*upperBound
  | .lowerBound | .upperBound => concatenation
  | .nullStatement => NULL
  | .raiseStatement => RAISE*opt exceptionName
  | .returnStatement => RETURN*opt expression
  | .functionCall => opt CALL*routineName*opt functionArgument
  | .pipeRowStatement => PIPE*ROW*parens expression
  | .body => BEGIN*seqOfStatements*opt (EXCEPTION*plus exceptionHandler)*END*opt labelName
  | .exceptionHandler => WHEN*exceptionName*star (OR*exceptionName)*THEN*seqOfStatements
  | .triggerBlock => opt (opt DECLARE*plus declareSpec)*body
  | .block => opt DECLARE*plus declareSpec*body
  | .sqlStatement =>
    executeImmediate + dataManipulationLanguageStatements + cursorManipulationStatements +
    transactionControlStatements
  | .executeImmediate =>
    EXECUTE*IMMEDIATE*expression*opt (intoClause*opt usingClause + usingClause*
    opt dynamicReturningClause + dynamicReturningClause)
  | .dynamicReturningClause => anyOf [RETURNING, RETURN]*intoClause
  | .dataManipulationLanguageStatements =>
    mergeStatement + lockTableStatement + selectStatement + updateStatement + deleteStatement +
    insertStatement + explainStatement
  | .cursorManipulationStatements =>
    closeStatement + openStatement + fetchStatement + openForStatement
  | .closeStatement => CLOSE*cursorName
  | .openStatement => OPEN*cursorName*opt (parens (opt expressions))
  | .fetchStatement =>
    FETCH*cursorName*(INTO*series variableName + BULK*COLLECT*INTO*series variableName)
  | .openForStatement => OPEN*variableName*FOR*(selectStatement + expression)*opt usingClause
  | .transactionControlStatements =>
    setTransactionCommand + setConstraintCommand + commitStatement + rollbackStatement +
    savepointStatement
  | .setTransactionCommand =>
    SET*TRANSACTION*opt (READ*anyOf [ONLY, WRITE] + ISOLATION*LEVEL*(SERIALIZABLE + READ*
    COMMITTED) + USE*ROLLBACK*SEGMENT*rollbackSegmentName)*opt (NAME*quotedString)
  | .setConstraintCommand =>
    SET*anyOf [CONSTRAINT, CONSTRAINTS]*(ALL + series constraintName)*anyOf [IMMEDIATE, DEFERRED]
  | .commitStatement =>
    COMMIT*opt WORK*opt (COMMENT*expression + FORCE*(CORRUPT_XID*expression + CORRUPT_XID_ALL +
    expression*opt (COMMA*expression)))*opt writeClause
  | .writeClause => WRITE*opt (anyOf [WAIT, NOWAIT])*opt (anyOf [IMMEDIATE, BATCH])
  | .rollbackStatement =>
    ROLLBACK*opt WORK*opt (TO*opt SAVEPOINT*savepointName + FORCE*quotedString)
  | .savepointStatement => SAVEPOINT*savepointName
  | kind => others kind

end BlockScript.Grammar.Statement
