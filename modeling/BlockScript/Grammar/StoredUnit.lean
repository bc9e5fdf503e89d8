import BlockScript.Grammar.Phrase

/-!
Stored units: functions, procedures, packages, triggers and types, as they are created, altered and
dropped.
-/

namespace BlockScript.Grammar.StoredUnit
open Phrase Terminal Nonterminal

def rules (others : Nonterminal → Phrase) : Nonterminal → Phrase
  | .dropFunction => DROP*FUNCTION*functionName*SEMICOLON
  | .alterFunction =>
    ALTER*FUNCTION*functionName*COMPILE*opt DEBUG*star compilerParametersClause*opt (REUSE*
    SETTINGS)*SEMICOLON
  | .createFunctionBody =>
    CREATE*opt (OR*REPLACE)*FUNCTION*functionName*opt (parens (series parameter))*RETURN*typeSpec*
    star (invokerRightsClause + parallelEnableClause + resultCacheClause + DETERMINISTIC)*
    (opt PIPELINED*anyOf [IS, AS]*(opt DECLARE*opt seqOfDeclareSpecs*body + callSpec) +
    anyOf [PIPELINED, AGGREGATE]*USING*implementationTypeName)*SEMICOLON
  | .parallelEnableClause => PARALLEL_ENABLE*opt partitionByClause
  | .partitionByClause =>
    parens (PARTITION*expression*BY*(ANY + anyOf [HASH, RANGE, LIST]*parenColumnList)*
    opt streamingClause)
  | .resultCacheClause => RESULT_CACHE*opt reliesOnPart
  | .reliesOnPart => RELIES_ON*parens (commas tableviewName)
  | .streamingClause => anyOf [ORDER, CLUSTER]*expression*BY*parenColumnList
  | .dropPackage => DROP*PACKAGE*opt BODY*opt (schemaObjectName*PERIOD)*packageName*SEMICOLON
  | .alterPackage =>
    ALTER*PACKAGE*packageName*COMPILE*opt DEBUG*opt (anyOf [PACKAGE, BODY, SPECIFICATION])*
    star compilerParametersClause*opt (REUSE*SETTINGS)*SEMICOLON
  | .createPackage =>
    CREATE*opt (OR*REPLACE)*PACKAGE*opt (schemaObjectName*PERIOD)*packageName*
    opt invokerRightsClause*anyOf [IS, AS]*star packageObjSpec*END*opt packageName*SEMICOLON
  | .createPackageBody =>
    CREATE*opt (OR*REPLACE)*PACKAGE*BODY*opt (schemaObjectName*PERIOD)*packageName*anyOf [IS, AS]*
    star packageObjBody*opt (BEGIN*seqOfStatements)*END*opt packageName*SEMICOLON
  | .packageObjSpec =>
    pragmaDeclaration + variableDeclaration + subtypeDeclaration + cursorDeclaration +
    exceptionDeclaration + typeDeclaration + procedureSpec + functionSpec
  | .procedureSpec => PROCEDURE*identifier*opt (parens (commas parameter))*SEMICOLON
  | .functionSpec =>
    FUNCTION*identifier*opt (parens (commas parameter))*RETURN*typeSpec*opt DETERMINISTIC*
    opt RESULT_CACHE*SEMICOLON
  | .packageObjBody =>
    variableDeclaration + subtypeDeclaration + cursorDeclaration + exceptionDeclaration +
    typeDeclaration + procedureBody + functionBody + procedureSpec + functionSpec
  | .dropProcedure => DROP*PROCEDURE*procedureName*SEMICOLON
  | .alterProcedure =>
    ALTER*PROCEDURE*procedureName*COMPILE*opt DEBUG*star compilerParametersClause*opt (REUSE*
    SETTINGS)*SEMICOLON
  | .functionBody =>
    FUNCTION*identifier*opt (parens (commas parameter))*RETURN*typeSpec*star (invokerRightsClause +
    parallelEnableClause + resultCacheClause + DETERMINISTIC)*(opt PIPELINED*anyOf [IS, AS]*
    (opt DECLARE*opt seqOfDeclareSpecs*body + callSpec) + anyOf [PIPELINED, AGGREGATE]*USING*
    implementationTypeName)*SEMICOLON
  | .procedureBody =>
    PROCEDURE*identifier*opt (parens (commas parameter))*anyOf [IS, AS]*(opt DECLARE*
    opt seqOfDeclareSpecs*body + callSpec + EXTERNAL)*SEMICOLON
  | .createProcedureBody =>
    CREATE*opt (OR*REPLACE)*PROCEDURE*procedureName*opt (parens (commas parameter))*
    opt invokerRightsClause*anyOf [IS, AS]*(opt DECLARE*opt seqOfDeclareSpecs*body + callSpec +
    EXTERNAL)*SEMICOLON
  | .dropTrigger => DROP*TRIGGER*triggerName*SEMICOLON
  | .alterTrigger =>
    ALTER*TRIGGER*triggerName*(anyOf [ENABLE, DISABLE] + RENAME*TO*triggerName + COMPILE*opt DEBUG*
    star compilerParametersClause*opt (REUSE*SETTINGS))*SEMICOLON
  | .createTrigger =>
    CREATE*opt (OR*REPLACE)*TRIGGER*triggerName*(simpleDmlTrigger + compoundDmlTrigger +
    nonDmlTrigger)*opt triggerFollowsClause*opt (anyOf [ENABLE, DISABLE])*opt triggerWhenClause*
    triggerBody*SEMICOLON
  | .triggerFollowsClause => FOLLOWS*commas triggerName
  | .triggerWhenClause => WHEN*parens condition
  | .simpleDmlTrigger =>
    (BEFORE + AFTER + INSTEAD*OF)*dmlEventClause*opt referencingClause*opt forEachRow
  | .forEachRow => FOR*EACH*ROW
  | .compoundDmlTrigger => FOR*dmlEventClause*opt referencingClause
  | .nonDmlTrigger =>
    anyOf [BEFORE, AFTER]*nonDmlEvent*star (OR*nonDmlEvent)*ON*(DATABASE + opt (schemaName*PERIOD)*
    SCHEMA)
  | .triggerBody => COMPOUND*TRIGGER + CALL*identifier + triggerBlock
  | .routineClause => routineName*opt functionArgument
  | .compoundTriggerBlock =>
    COMPOUND*TRIGGER*opt seqOfDeclareSpecs*plus timingPointSection*END*triggerName
  | .timingPointSection =>
    BEFORE*STATEMENT*IS*triggerBlock*BEFORE*STATEMENT*SEMICOLON + BEFORE*EACH*ROW*IS*triggerBlock*
    BEFORE*EACH*ROW*SEMICOLON + AFTER*STATEMENT*IS*triggerBlock*AFTER*STATEMENT*SEMICOLON + AFTER*
    EACH*ROW*IS*triggerBlock*AFTER*EACH*ROW*SEMICOLON
  | .nonDmlEvent =>
    ALTER + ANALYZE + ASSOCIATE*STATISTICS + AUDIT + COMMENT + CREATE + DISASSOCIATE*STATISTICS +
    DROP + GRANT + NOAUDIT + RENAME + REVOKE + TRUNCATE + DDL + STARTUP + SHUTDOWN +
    DB_ROLE_CHANGE + LOGON + LOGOFF + SERVERERROR + SUSPEND + DATABASE + SCHEMA + FOLLOWS
  | .dmlEventClause =>
    dmlEventElement*star (OR*dmlEventElement)*ON*opt dmlEventNestedClause*tableviewName
  | .dmlEventElement => anyOf [DELETE, INSERT, UPDATE]*opt (OF*columnList)
  | .dmlEventNestedClause => NESTED*TABLE*tableviewName*OF
  | .referencingClause => REFERENCING*plus referencingElement
  | .referencingElement => anyOf [NEW, OLD, PARENT]*columnAlias
  | .dropType => DROP*TYPE*opt BODY*typeName*opt (anyOf [FORCE, VALIDATE])*SEMICOLON
  | .alterType =>
    ALTER*TYPE*typeName*(compileTypeClause + replaceTypeClause + alterMethodSpec +
    alterCollectionClauses + modifierClause)*opt dependentHandlingClause*SEMICOLON
  | .compileTypeClause =>
    COMPILE*opt DEBUG*opt (anyOf [SPECIFICATION, BODY])*star compilerParametersClause*opt (REUSE*
    SETTINGS)
  | .replaceTypeClause => REPLACE*opt invokerRightsClause*AS*OBJECT*parens (commas objectMemberSpec)
  | .alterMethodSpec => commas alterMethodElement
  | .alterMethodElement => anyOf [ADD, DROP]*(mapOrderFunctionSpec + subprogramSpec)
  | .alterAttributeDefinition =>
    anyOf [ADD, MODIFY, DROP]*ATTRIBUTE*(attributeDefinition + parens (commas attributeDefinition))
  | .attributeDefinition => attributeName*opt typeSpec
  | .alterCollectionClauses => MODIFY*(LIMIT*expression + ELEMENT*TYPE*typeSpec)
  | .dependentHandlingClause =>
    INVALIDATE + CASCADE*opt (CONVERT*TO*SUBSTITUTABLE + opt NOT*INCLUDING*TABLE*DATA)*
    opt dependentExceptionsPart
  | .dependentExceptionsPart => opt FORCE*EXCEPTIONS*INTO*tableviewName
  | .createType => CREATE*opt (OR*REPLACE)*TYPE*(typeDefinition + typeBody)*SEMICOLON
  | .typeDefinition => typeName*opt (OID*CHAR_STRING)*opt objectTypeDef
  | .objectTypeDef =>
    opt invokerRightsClause*(objectAsPart + objectUnderPart)*opt sqljObjectType*
    opt (parens (commas objectMemberSpec))*star modifierClause
  | .objectAsPart => anyOf [IS, AS]*(OBJECT + varrayTypeDef + nestedTableTypeDef)
  | .objectUnderPart => UNDER*typeSpec
  | .nestedTableTypeDef => TABLE*OF*typeSpec*opt (NOT*NULL)
  | .sqljObjectType =>
    EXTERNAL*NAME*expression*LANGUAGE*JAVA*USING*anyOf [SQLDATA, CUSTOMDATUM, ORADATA]
  | .typeBody => BODY*typeName*anyOf [IS, AS]*plus typeBodyElements*END
  | .typeBodyElements => mapOrderFuncDeclaration + subprogDeclInType
  | .mapOrderFuncDeclaration => anyOf [MAP, ORDER]*MEMBER*funcDeclInType
  | .subprogDeclInType =>
    anyOf [MEMBER, STATIC]*(procDeclInType + funcDeclInType + constructorDeclaration)
  | .procDeclInType =>
    PROCEDURE*procedureName*parens (commas typeElementsParameter)*anyOf [IS, AS]*(callSpec +
    opt DECLARE*opt seqOfDeclareSpecs*body*SEMICOLON)
  | .funcDeclInType =>
    FUNCTION*functionName*opt (parens (commas typeElementsParameter))*RETURN*typeSpec*anyOf [IS,
    AS]*(callSpec + opt DECLARE*opt seqOfDeclareSpecs*body*SEMICOLON)
  | .constructorDeclaration =>
    opt FINAL*opt INSTANTIABLE*CONSTRUCTOR*FUNCTION*typeSpec*opt (parens ((SELF*IN*OUT*typeSpec*
    COMMA)*commas typeElementsParameter))*RETURN*SELF*AS*RESULT*anyOf [IS, AS]*(callSpec +
    opt DECLARE*opt seqOfDeclareSpecs*body*SEMICOLON)
  | .modifierClause => opt NOT*anyOf [INSTANTIABLE, FINAL, OVERRIDING]
  | .objectMemberSpec => identifier*typeSpec*opt sqljObjectTypeAttr + elementSpec
  | .sqljObjectTypeAttr => EXTERNAL*NAME*expression
  | .elementSpec => opt modifierClause*plus elementSpecOptions*opt (COMMA*pragmaClause)
  | .elementSpecOptions => subprogramSpec + constructorSpec + mapOrderFunctionSpec
  | .subprogramSpec => anyOf [MEMBER, STATIC]*(typeProcedureSpec + typeFunctionSpec)
  | .typeProcedureSpec =>
    PROCEDURE*procedureName*parens (commas typeElementsParameter)*opt (anyOf [IS, AS]*callSpec)
  | .typeFunctionSpec =>
    FUNCTION*functionName*opt (parens (commas typeElementsParameter))*RETURN*(typeSpec + SELF*AS*
    RESULT)*opt (anyOf [IS, AS]*callSpec + EXTERNAL*opt VARIABLE*NAME*expression)
  | .constructorSpec =>
    opt FINAL*opt INSTANTIABLE*CONSTRUCTOR*FUNCTION*typeSpec*opt (parens ((SELF*IN*OUT*typeSpec*
    COMMA)*commas typeElementsParameter))*RETURN*SELF*AS*RESULT*opt (anyOf [IS, AS]*callSpec)
  | .mapOrderFunctionSpec => anyOf [MAP, ORDER]*MEMBER*typeFunctionSpec
  | .pragmaClause => PRAGMA*RESTRICT_REFERENCES*parens (commas pragmaElements)
  | .pragmaElements => identifier + DEFAULT
  | .typeElementsParameter => parameterName*typeSpec
  | kind => others kind

end BlockScript.Grammar.StoredUnit
