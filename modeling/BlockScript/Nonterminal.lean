import BlockScript.Terminal

/-!
The nonterminals of the grammar. Each has the name under which parse trees report it, and a level:
a phrase of one level begins only with tokens and with nonterminals of lower levels, so that looking
for a phrase at one place of a text always comes to an end.
-/

namespace BlockScript

inductive Nonterminal where
  | sqlScript | unitStatement | dropFunction | alterFunction | createFunctionBody
  | parallelEnableClause | partitionByClause | resultCacheClause | reliesOnPart | streamingClause
  | dropPackage | alterPackage | createPackage | createPackageBody | packageObjSpec | procedureSpec
  | functionSpec | packageObjBody | dropProcedure | alterProcedure | functionBody | procedureBody
  | createProcedureBody | dropTrigger | alterTrigger | createTrigger | triggerFollowsClause
  | triggerWhenClause | simpleDmlTrigger | forEachRow | compoundDmlTrigger | nonDmlTrigger
  | triggerBody | routineClause | compoundTriggerBlock | timingPointSection | nonDmlEvent
  | dmlEventClause | dmlEventElement | dmlEventNestedClause | referencingClause | referencingElement
  | dropType | alterType | compileTypeClause | replaceTypeClause | alterMethodSpec
  | alterMethodElement | alterAttributeDefinition | attributeDefinition | alterCollectionClauses
  | dependentHandlingClause | dependentExceptionsPart | createType | typeDefinition | objectTypeDef
  | objectAsPart | objectUnderPart | nestedTableTypeDef | sqljObjectType | typeBody
  | typeBodyElements | mapOrderFuncDeclaration | subprogDeclInType | procDeclInType | funcDeclInType
  | constructorDeclaration | modifierClause | objectMemberSpec | sqljObjectTypeAttr | elementSpec
  | elementSpecOptions | subprogramSpec | typeProcedureSpec | typeFunctionSpec | constructorSpec
  | mapOrderFunctionSpec | pragmaClause | pragmaElements | typeElementsParameter | dropSequence
  | alterSequence | createSequence | sequenceSpec | sequenceStartClause | createIndex | alterIndex
  | createUser | alterUser | alterIdentifiedBy | identifiedBy | identifiedOtherClause
  | userTablespaceClause | quotaClause | profileClause | roleClause | userDefaultRoleClause
  | passwordExpireClause | userLockClause | userEditionsClause | alterUserEditionsClause
  | proxyClause | containerNames | setContainerData | addRemContainerData | containerDataClause
  | dropIndex | grantStatement | containerClause | createView | viewOptions | viewAliasConstraint
  | objectViewClause | inlineConstraint | inlineRefConstraint | outOfLineRefConstraint
  | outOfLineConstraint | constraintState | createTablespace | permanentTablespaceClause
  | tablespaceEncryptionSpec | loggingClause | extentManagementClause | segmentManagementClause
  | flashbackModeClause | temporaryTablespaceClause | tablespaceGroupClause | undoTablespaceClause
  | tablespaceRetentionClause | datafileSpecification | tempfileSpecification | datafileTempfileSpec
  | redoLogFileSpec | autoextendClause | maxsizeClause | buildClause | parallelClause
  | createMaterializedViewLog | newValuesClause | mvLogPurgeClause | createMaterializedView
  | createMvRefresh | createTable | xmltypeTable | xmltypeVirtualColumns | xmltypeColumnProperties
  | xmltypeStorage | xmlschemaSpec | objectTable | oidIndexClause | oidClause | objectProperties
  | objectTableSubstitution | relationalTable | relationalProperties | tablePartitioningClauses
  | tableRangePartitionByClause | datatypeNullEnable | sizeClause | tableCompression
  | physicalAttributesClause | storageClause | deferredSegmentCreation | segmentAttributesClause
  | physicalProperties | rowMovementClause | flashbackArchiveClause | logGrp
  | supplementalTableLogging | supplementalLogGrpClause | supplementalIdKeyClause
  | allocateExtentClause | deallocateUnusedClause | shrinkClause | recordsPerBlockClause
  | upgradeTableClause | dropTable | commentOnColumn | enableOrDisable | allowOrDisallow
  | createSynonym | commentOnTable | alterTable | alterTableProperties | alterTableProperties1
  | alterIotClauses | alterMappingTableClause | alterOverflowClause | addOverflowClause
  | enableDisableClause | usingIndexClause | exceptionsClause | moveTableClause
  | indexOrgTableClause | mappingTableClause | keyCompression | indexOrgOverflowClause
  | columnClauses | modifyCollectionRetrieval | collectionItem | renameColumnClause | oldColumnName
  | newColumnName | addModifyDropColumnClauses | dropColumnClause | modifyColumnClauses
  | modifyColProperties | modifyColSubstitutable | addColumnClause | alterVarrayColProperties
  | varrayColProperties | varrayStorageClause | lobSegname | lobItem | lobStorageParameters
  | lobStorageClause | modifyLobStorageClause | modifyLobParameters | lobParameters
  | lobDeduplicateClause | lobCompressionClause | lobRetentionClause | encryptionSpec | tablespace
  | varrayItem | columnProperties | columnDefinition | virtualColumnDefinition
  | outOfLinePartStorage | nestedTableColProperties | nestedItem | substitutableColumnClause
  | partitionName | supplementalLoggingProps | columnOrAttribute | objectTypeColProperties
  | constraintClauses | oldConstraintName | newConstraintName | dropConstraintClause
  | dropPrimaryKeyOrUniqueOrGenericClause | addConstraint | checkConstraint | dropConstraint
  | enableConstraint | disableConstraint | foreignKeyClause | referencesClause | onDeleteClause
  | uniqueKeyClause | primaryKeyClause | anonymousBlock | invokerRightsClause
  | compilerParametersClause | callSpec | javaSpec | cSpec | cAgentInClause | cParametersClause
  | parameter | defaultValuePart | seqOfDeclareSpecs | declareSpec | variableDeclaration
  | subtypeDeclaration | cursorDeclaration | parameterSpec | exceptionDeclaration
  | pragmaDeclaration | recordTypeDef | fieldSpec | refCursorTypeDef | typeDeclaration
  | tableTypeDef | tableIndexedByPart | varrayTypeDef | seqOfStatements | labelDeclaration
  | statement | swallowToSemi | assignmentStatement | continueStatement | exitStatement
  | gotoStatement | ifStatement | elsifPart | elsePart | loopStatement | cursorLoopParam
  | forallStatement | boundsClause | betweenBound | lowerBound | upperBound | nullStatement
  | raiseStatement | returnStatement | functionCall | pipeRowStatement | body | exceptionHandler
  | triggerBlock | block | sqlStatement | executeImmediate | dynamicReturningClause
  | dataManipulationLanguageStatements | cursorManipulationStatements | closeStatement
  | openStatement | fetchStatement | openForStatement | transactionControlStatements
  | setTransactionCommand | setConstraintCommand | commitStatement | writeClause | rollbackStatement
  | savepointStatement | explainStatement | selectStatement | subqueryFactoringClause
  | factoringElement | searchClause | cycleClause | subquery | subqueryBasicElements
  | subqueryOperationPart | queryBlock | selectedElement | fromClause | selectListElements
  | tableRefList | tableRef | tableRefAux | tableRefAuxInternal | joinClause | joinOnPart
  | joinUsingPart | outerJoinType | queryPartitionClause | flashbackQueryClause | pivotClause
  | pivotElement | pivotForClause | pivotInClause | pivotInClauseElement | pivotInClauseElements
  | unpivotClause | unpivotInClause | unpivotInElements | hierarchicalQueryClause | startPart
  | groupByClause | groupByElements | rollupCubeClause | groupingSetsClause | groupingSetsElements
  | havingClause | modelClause | cellReferenceOptions | returnRowsClause | referenceModel
  | mainModel | modelColumnClauses | modelColumnPartitionPart | modelColumnList | modelColumn
  | modelRulesClause | modelRulesPart | modelRulesElement | cellAssignment | modelIterateClause
  | untilPart | orderByClause | orderByElements | forUpdateClause | forUpdateOfPart
  | forUpdateOptions | updateStatement | updateSetClause | columnBasedUpdateSetClause
  | deleteStatement | insertStatement | singleTableInsert | multiTableInsert | multiTableElement
  | conditionalInsertClause | conditionalInsertWhenPart | conditionalInsertElsePart
  | insertIntoClause | valuesClause | mergeStatement | mergeUpdateClause | mergeElement
  | mergeUpdateDeletePart | mergeInsertClause | selectedTableview | lockTableStatement
  | waitNowaitPart | lockTableElement | lockMode | generalTableRef | staticReturningClause
  | errorLoggingClause | errorLoggingIntoPart | errorLoggingRejectPart | dmlTableExpressionClause
  | tableCollectionExpression | subqueryRestrictionClause | sampleClause | seedPart | condition
  | expressions | expression | cursorExpression | logicalExpression | multisetExpression
  | relationalExpression | compoundExpression | relationalOperator | inElements | betweenElements
  | concatenation | intervalExpression | modelExpression | modelExpressionElement
  | singleColumnForLoop | multiColumnForLoop | unaryExpression | caseStatement | simpleCaseStatement
  | simpleCaseWhenPart | searchedCaseStatement | searchedCaseWhenPart | caseElsePart | atom
  | quantifiedExpression | stringFunction | standardFunction | numericFunctionWrapper
  | numericFunction | otherFunction | overClauseKeyword | withinOrOverClauseKeyword
  | standardPredictionFunctionKeyword | overClause | windowingClause | windowingType
  | windowingElements | usingClause | usingElement | collectOrderByPart | withinOrOverPart
  | costMatrixClause | xmlPassingClause | xmlAttributesClause | xmlNamespacesClause | xmlTableColumn
  | xmlGeneralDefaultPart | xmlMultiuseExpressionElement | xmlrootParamVersionPart
  | xmlrootParamStandalonePart | xmlserializeParamEncondingPart | xmlserializeParamVersionPart
  | xmlserializeParamIdentPart | sqlPlusCommand | wheneverCommand | setCommand
  | partitionExtensionClause | columnAlias | tableAlias | whereClause | intoClause | xmlColumnName
  | costClassName | attributeName | savepointName | rollbackSegmentName | tableVarName | schemaName
  | routineName | packageName | implementationTypeName | parameterName | referenceModelName
  | mainModelName | containerTableviewName | aggregateFunctionName | queryName | granteeName
  | roleName | constraintName | labelName | typeName | sequenceName | exceptionName | functionName
  | procedureName | triggerName | variableName | indexName | cursorName | recordName
  | collectionName | linkName | columnName | tableviewName | charSetName | synonymName
  | schemaObjectName | dirObjectName | userObjectName | grantObjectName | columnList
  | parenColumnList | keepClause | functionArgument | functionArgumentAnalytic
  | functionArgumentModeling | respectOrIgnoreNulls | argument | typeSpec | datatype | precisionPart
  | nativeDatatypeElement | bindVariable | generalElement | generalElementPart | tableElement
  | objectPrivilege | systemPrivilege | constant | numeric | numericNegative | quotedString
  | identifier | idExpression | outerJoinSign | regularId | stringFunctionName | numericFunctionName
deriving DecidableEq, Inhabited, Repr

namespace Nonterminal

def name (kind : Nonterminal) : String :=
  let own := ((reprStr kind).splitOn ".").getLastD ""
  String.ofList (own.toList.flatMap fun c =>
    if c.isUpper || c.isDigit then ['_', c.toLower] else [c])

def all : List Nonterminal := (List.range 542).map ofNat

/-- The levels as the grammar lists its phrases: how many phrases in a row are on one level, and
on which. -/
def runs : List (Nat × Nat) :=
  [(1, 16), (1, 15), (13, 13), (2, 0), (3, 13), (12, 0), (6, 16), (9, 14), (9, 13), (6, 12), (6, 0),
    (2, 16), (1, 15), (1, 14), (18, 13), (10, 12), (5, 13), (6, 14), (22, 2), (18, 0), (4, 16),
    (1, 15), (5, 9), (2, 0), (1, 10), (19, 11), (1, 16), (2, 15), (2, 14), (6, 13), (4, 12),
    (6, 11), (13, 9), (1, 12), (1, 8), (6, 2), (4, 15), (10, 14), (14, 0), (9, 14), (1, 12),
    (13, 11), (1, 16), (1, 0), (2, 15), (12, 14), (9, 13), (3, 14), (4, 13), (5, 12), (8, 11),
    (5, 10), (2, 9), (1, 0), (2, 16), (2, 15), (1, 14), (1, 13), (4, 12), (4, 0), (4, 16), (5, 15),
    (1, 0), (2, 16), (2, 0), (7, 15), (1, 14), (2, 0), (2, 16), (2, 15), (4, 9), (4, 15), (8, 12),
    (1, 11), (19, 10), (1, 9), (4, 0), (2, 15), (1, 14), (2, 13), (1, 12), (1, 11), (4, 10), (2, 9),
    (1, 8), (1, 16), (3, 7), (1, 6), (8, 5), (1, 6), (1, 5), (1, 0), (1, 5), (5, 1), (1, 0),
    (17, 16), (1, 15), (46, 4), (8, 5), (2, 16), (2, 15), (3, 3), (5, 2), (3, 0), (1, 2), (2, 1),
    (3, 0)]

def levelAt : List (Nat × Nat) → Nat → Nat
  | [], _ => 0
  | (count, level) :: rest, i => if i < count then level else levelAt rest (i - count)

def level (kind : Nonterminal) : Nat := levelAt runs kind.ctorIdx

def levels : Nat := 17

end Nonterminal
end BlockScript
