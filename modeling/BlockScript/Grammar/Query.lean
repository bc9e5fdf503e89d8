import BlockScript.Grammar.Phrase

/-!
Queries and the clauses of a selection, and the statements that change rows.
-/

namespace BlockScript.Grammar.Query
open Phrase Terminal Nonterminal

def rules (others : Nonterminal → Phrase) : Nonterminal → Phrase
  | .explainStatement =>
    EXPLAIN*PLAN*opt (SET*STATEMENT_ID*EQUALS_OP*quotedString)*opt (INTO*tableviewName)*FOR*
    (selectStatement + updateStatement + deleteStatement + insertStatement + mergeStatement)
  | .selectStatement => opt subqueryFactoringClause*subquery*star (forUpdateClause + orderByClause)
  | .subqueryFactoringClause => WITH*series factoringElement
  | .factoringElement =>
    queryName*opt parenColumnList*AS*parens (subquery*opt orderByClause)*opt searchClause*
    opt cycleClause
  | .searchClause =>
    SEARCH*anyOf [DEPTH, BREADTH]*FIRST*BY*commas (columnName*opt ASC*opt DESC*opt (NULLS*FIRST)*
    opt (NULLS*LAST))*SET*columnName
  | .cycleClause => CYCLE*columnList*SET*columnName*TO*expression*DEFAULT*expression
  | .subquery => subqueryBasicElements*star subqueryOperationPart
  | .subqueryBasicElements => queryBlock + parens subquery
  | .subqueryOperationPart => (UNION*opt ALL + INTERSECT + MINUS)*subqueryBasicElements
  | .queryBlock =>
    SELECT*opt (anyOf [DISTINCT, UNIQUE, ALL])*(ASTERISK + series selectedElement)*opt intoClause*
    fromClause*opt whereClause*opt hierarchicalQueryClause*opt groupByClause*opt modelClause
  | .selectedElement => selectListElements*opt columnAlias
  | .fromClause => FROM*tableRefList
  | .selectListElements => tableviewName*PERIOD*ASTERISK + opt (regularId*PERIOD)*expression
  | .tableRefList => series tableRef
  | .tableRef => tableRefAux*star joinClause*opt (pivotClause + unpivotClause)
  | .tableRefAux => tableRefAuxInternal*star flashbackQueryClause*opt tableAlias
  | .tableRefAuxInternal =>
    dmlTableExpressionClause*opt (pivotClause + unpivotClause) + parens (tableRef*
    star subqueryOperationPart)*opt (pivotClause + unpivotClause) + ONLY*
    parens dmlTableExpressionClause
  | .joinClause =>
    opt queryPartitionClause*opt (anyOf [CROSS, NATURAL])*opt (INNER + outerJoinType)*JOIN*
    tableRefAux*opt queryPartitionClause*star (joinOnPart + joinUsingPart)
  | .joinOnPart => ON*condition
  | .joinUsingPart => USING*parenColumnList
  | .outerJoinType => anyOf [FULL, LEFT, RIGHT]*opt OUTER
  | .queryPartitionClause => PARTITION*BY*(parens (opt (subquery + expressions)) + expressions)
  | .flashbackQueryClause =>
    VERSIONS*BETWEEN*anyOf [SCN, TIMESTAMP]*expression + AS*OF*anyOf [SCN, TIMESTAMP, SNAPSHOT]*
    expression
  | .pivotClause => PIVOT*opt XML*parens (series pivotElement*pivotForClause*pivotInClause)
  | .pivotElement => aggregateFunctionName*parens expression*opt columnAlias
  | .pivotForClause => FOR*(columnName + parenColumnList)
  | .pivotInClause => IN*parens (subquery + series ANY + series pivotInClauseElement)
  | .pivotInClauseElement => pivotInClauseElements*opt columnAlias
  | .pivotInClauseElements => expression + parens (opt expressions)
  | .unpivotClause =>
    UNPIVOT*opt (anyOf [INCLUDE, EXCLUDE]*NULLS)*parens ((columnName + parenColumnList)*
    pivotForClause*unpivotInClause)
  | .unpivotInClause => IN*parens (series unpivotInElements)
  | .unpivotInElements =>
    (columnName + parenColumnList)*opt (AS*(constant + parens (series constant)))
  | .hierarchicalQueryClause =>
    CONNECT*BY*opt NOCYCLE*condition*opt startPart + startPart*CONNECT*BY*opt NOCYCLE*condition
  | .startPart => START*WITH*condition
  | .groupByClause =>
    GROUP*BY*series groupByElements*opt havingClause + havingClause*opt (GROUP*BY*
    series groupByElements)
  | .groupByElements => groupingSetsClause + rollupCubeClause + expression
  | .rollupCubeClause => anyOf [ROLLUP, CUBE]*parens (series groupingSetsElements)
  | .groupingSetsClause => GROUPING*SETS*parens (series groupingSetsElements)
  | .groupingSetsElements => rollupCubeClause + parens (opt expressions) + expression
  | .havingClause => HAVING*condition
  | .modelClause =>
    MODEL*star cellReferenceOptions*opt returnRowsClause*star referenceModel*mainModel
  | .cellReferenceOptions => anyOf [IGNORE, KEEP]*NAV + UNIQUE*(DIMENSION + SINGLE*REFERENCE)
  | .returnRowsClause => RETURN*anyOf [UPDATED, ALL]*ROWS
  | .referenceModel =>
    REFERENCE*referenceModelName*ON*parens subquery*modelColumnClauses*star cellReferenceOptions
  | .mainModel =>
    opt (MAIN*mainModelName)*modelColumnClauses*star cellReferenceOptions*modelRulesClause
  | .modelColumnClauses =>
    opt modelColumnPartitionPart*DIMENSION*BY*modelColumnList*MEASURES*modelColumnList
  | .modelColumnPartitionPart => PARTITION*BY*modelColumnList
  | .modelColumnList => parens (series modelColumn)
  | .modelColumn => (expression + queryBlock)*opt columnAlias
  | .modelRulesClause => opt modelRulesPart*parens (star (opt COMMA*modelRulesElement))
  | .modelRulesPart =>
    RULES*opt (UPDATE + UPSERT*opt ALL)*opt (anyOf [AUTOMATIC, SEQUENTIAL]*ORDER)*
    opt modelIterateClause
  | .modelRulesElement =>
    opt (UPDATE + UPSERT*opt ALL)*cellAssignment*opt orderByClause*EQUALS_OP*expression
  | .cellAssignment => modelExpression
  | .modelIterateClause => ITERATE*parens expression*opt untilPart
  | .untilPart => UNTIL*parens condition
  | .orderByClause => ORDER*opt SIBLINGS*BY*series orderByElements
  | .orderByElements => expression*opt (anyOf [ASC, DESC])*opt (NULLS*anyOf [FIRST, LAST])
  | .forUpdateClause => FOR*UPDATE*opt forUpdateOfPart*opt forUpdateOptions
  | .forUpdateOfPart => OF*columnList
  | .forUpdateOptions => SKIP_*LOCKED + NOWAIT + WAIT*expression
  | .updateStatement =>
    UPDATE*generalTableRef*updateSetClause*opt whereClause*opt staticReturningClause*
    opt errorLoggingClause
  | .updateSetClause =>
    SET*(series columnBasedUpdateSetClause + VALUE*parens identifier*EQUALS_OP*expression)
  | .columnBasedUpdateSetClause =>
    columnName*EQUALS_OP*expression + parenColumnList*EQUALS_OP*subquery
  | .deleteStatement =>
    DELETE*opt FROM*generalTableRef*opt whereClause*opt staticReturningClause*opt errorLoggingClause
  | .insertStatement => INSERT*(singleTableInsert + multiTableInsert)
  | .singleTableInsert =>
    insertIntoClause*(valuesClause*opt staticReturningClause + selectStatement)*
    opt errorLoggingClause
  | .multiTableInsert => (ALL*plus multiTableElement + conditionalInsertClause)*selectStatement
  | .multiTableElement => insertIntoClause*opt valuesClause*opt errorLoggingClause
  | .conditionalInsertClause =>
    opt (anyOf [ALL, FIRST])*plus conditionalInsertWhenPart*opt conditionalInsertElsePart
  | .conditionalInsertWhenPart => WHEN*condition*THEN*plus multiTableElement
  | .conditionalInsertElsePart => ELSE*plus multiTableElement
  | .insertIntoClause => INTO*generalTableRef*opt parenColumnList
  | .valuesClause => VALUES*parens (opt expressions)
  | .mergeStatement =>
    MERGE*INTO*tableviewName*opt tableAlias*USING*selectedTableview*ON*parens condition*
    opt (mergeUpdateClause*opt mergeInsertClause + mergeInsertClause*opt mergeUpdateClause)*
    opt errorLoggingClause
  | .mergeUpdateClause =>
    WHEN*MATCHED*THEN*UPDATE*SET*commas mergeElement*opt whereClause*opt mergeUpdateDeletePart
  | .mergeElement => columnName*EQUALS_OP*expression
  | .mergeUpdateDeletePart => DELETE*whereClause
  | .mergeInsertClause =>
    WHEN*NOT*MATCHED*THEN*INSERT*opt parenColumnList*VALUES*parens (opt expressions)*opt whereClause
  | .selectedTableview => (tableviewName + parens selectStatement)*opt tableAlias
  | .lockTableStatement => LOCK*TABLE*commas lockTableElement*IN*lockMode*MODE*opt waitNowaitPart
  | .waitNowaitPart => WAIT*expression + NOWAIT
  | .lockTableElement => tableviewName*opt partitionExtensionClause
  | .lockMode => ROW*SHARE + ROW*EXCLUSIVE + SHARE*opt UPDATE + SHARE*ROW*EXCLUSIVE + EXCLUSIVE
  | .generalTableRef =>
    (dmlTableExpressionClause + ONLY*parens dmlTableExpressionClause)*opt tableAlias
  | .staticReturningClause => anyOf [RETURNING, RETURN]*expressions*intoClause
  | .errorLoggingClause =>
    LOG*ERRORS*opt errorLoggingIntoPart*opt expression*opt errorLoggingRejectPart
  | .errorLoggingIntoPart => INTO*tableviewName
  | .errorLoggingRejectPart => REJECT*LIMIT*(UNLIMITED + expression)
  | .dmlTableExpressionClause =>
    tableCollectionExpression + parens (selectStatement*opt subqueryRestrictionClause) +
    tableviewName*opt sampleClause
  | .tableCollectionExpression =>
    anyOf [TABLE, THE]*(parens subquery + parens expression*opt (parens PLUS_SIGN))
  | .subqueryRestrictionClause => WITH*(READ*ONLY + CHECK*OPTION*opt (CONSTRAINT*constraintName))
  | .sampleClause => SAMPLE*opt BLOCK*parens (expression*opt (COMMA*expression))*opt seedPart
  | .seedPart => SEED*parens expression
  | kind => others kind

end BlockScript.Grammar.Query
