import BlockScript.Grammar.Phrase

namespace BlockScript.Grammar.Expression
open Phrase Terminal Nonterminal

def logicalExpressionOperand : Phrase :=
  multisetExpression*star (IS*opt NOT*(NULL + NAN + PRESENT + INFINITE + A_LETTER*SET + EMPTY +
    OF*opt TYPE*parens (opt ONLY*commas typeSpec))) + NOT*operand .logicalExpression 3

def logicalExpressionOperators : List Operator :=
  [⟨2, AND*operand .logicalExpression 3⟩, ⟨1, OR*operand .logicalExpression 2⟩]

def relationalExpressionOperand : Phrase := compoundExpression

def relationalExpressionOperators : List Operator :=
  [⟨2, relationalOperator*operand .relationalExpression 3⟩]

def concatenationOperand : Phrase :=
  modelExpression*opt (AT*(LOCAL + TIME*ZONE*concatenation) + intervalExpression)

def concatenationOperators : List Operator :=
  [⟨3, anyOf [ASTERISK, SOLIDUS]*operand .concatenation 4⟩,
    ⟨2, anyOf [PLUS_SIGN, MINUS_SIGN]*operand .concatenation 3⟩,
    ⟨1, BAR*BAR*operand .concatenation 2⟩]

def rules (others : Nonterminal → Phrase) : Nonterminal → Phrase
  | .condition => expression
  | .expressions => commas expression
  | .expression => cursorExpression + logicalExpression
  | .cursorExpression => CURSOR*parens subquery
  | .multisetExpression =>
    relationalExpression*opt (anyOf [MEMBER, SUBMULTISET]*opt OF*concatenation)
  | .compoundExpression =>
    concatenation*opt (opt NOT*(IN*inElements + BETWEEN*betweenElements + anyOf [LIKE, LIKEC, LIKE2,
    LIKE4]*concatenation*opt (ESCAPE*concatenation)))
  | .relationalOperator =>
    EQUALS_OP + (NOT_EQUAL_OP + LESS_THAN_OP*GREATER_THAN_OP + EXCLAMATION_OPERATOR_PART*EQUALS_OP +
    CARRET_OPERATOR_PART*EQUALS_OP) + anyOf [LESS_THAN_OP, GREATER_THAN_OP]*opt EQUALS_OP
  | .inElements =>
    parens subquery + parens (commas concatenation) + constant + bindVariable + generalElement
  | .betweenElements => concatenation*AND*concatenation
  | .intervalExpression =>
    DAY*opt (parens concatenation)*TO*SECOND*opt (parens concatenation) + YEAR*
    opt (parens concatenation)*TO*MONTH
  | .modelExpression => unaryExpression*opt (LEFT_BRACKET*modelExpressionElement*RIGHT_BRACKET)
  | .modelExpressionElement =>
    commas (ANY + expression) + commas singleColumnForLoop + multiColumnForLoop
  | .singleColumnForLoop =>
    FOR*columnName*(IN*parens (opt expressions) + opt (LIKE*expression)*FROM*expression*TO*
    expression*anyOf [INCREMENT, DECREMENT]*expression)
  | .multiColumnForLoop => FOR*parenColumnList*IN*parens (subquery + parens (opt expressions))
  | .unaryExpression =>
    anyOf [MINUS_SIGN, PLUS_SIGN]*unaryExpression + PRIOR*unaryExpression + CONNECT_BY_ROOT*
    unaryExpression + NEW*unaryExpression + DISTINCT*unaryExpression + ALL*unaryExpression +
    caseStatement + quantifiedExpression + standardFunction + atom
  | .caseStatement => searchedCaseStatement + simpleCaseStatement
  | .simpleCaseStatement =>
    opt labelName*CASE*expression*plus simpleCaseWhenPart*opt caseElsePart*END*opt CASE*
    opt labelName
  | .simpleCaseWhenPart | .searchedCaseWhenPart =>
    WHEN*expression*THEN*(seqOfStatements + expression)
  | .searchedCaseStatement =>
    opt labelName*CASE*plus searchedCaseWhenPart*opt caseElsePart*END*opt CASE*opt labelName
  | .caseElsePart => ELSE*(seqOfStatements + expression)
  | .atom =>
    tableElement*outerJoinSign + bindVariable + constant + generalElement + parens subquery*
    star subqueryOperationPart + parens expressions
  | .quantifiedExpression => anyOf [SOME, EXISTS, ALL, ANY]*(parens subquery + parens expression)
  | .stringFunction =>
    SUBSTR*parens (expression*COMMA*expression*opt (COMMA*expression)) + TO_CHAR*
    parens ((tableElement + standardFunction + expression)*opt (COMMA*quotedString)*opt (COMMA*
    quotedString)) + DECODE*parens expressions + CHR*parens (concatenation*USING*NCHAR_CS) + NVL*
    parens (expression*COMMA*expression) + TRIM*parens (opt (opt (anyOf [LEADING, TRAILING, BOTH])*
    opt quotedString*FROM)*concatenation) + TO_DATE*parens (expression*opt (COMMA*quotedString))
  | .standardFunction => stringFunction + numericFunctionWrapper + otherFunction
  | .numericFunctionWrapper => numericFunction*opt (singleColumnForLoop + multiColumnForLoop)
  | .numericFunction =>
    SUM*parens (opt (anyOf [DISTINCT, ALL])*expression) + COUNT*parens (ASTERISK +
    opt (opt (anyOf [DISTINCT, UNIQUE, ALL])*concatenation))*opt overClause + ROUND*
    parens (expression*opt (COMMA*UNSIGNED_INTEGER)) + AVG*parens (opt (anyOf [DISTINCT, ALL])*
    expression) + MAX*parens (opt (anyOf [DISTINCT, ALL])*expression) + LEAST*parens expressions +
    GREATEST*parens expressions
  | .otherFunction =>
    overClauseKeyword*functionArgumentAnalytic*opt overClause + regularId*functionArgumentModeling*
    opt usingClause + COUNT*parens (ASTERISK + opt (anyOf [DISTINCT, UNIQUE, ALL])*concatenation)*
    opt overClause + anyOf [CAST, XMLCAST]*parens ((MULTISET*parens subquery + concatenation)*AS*
    typeSpec) + COALESCE*parens (tableElement*opt (COMMA*(numeric + quotedString))) + COLLECT*
    parens (opt (anyOf [DISTINCT, UNIQUE])*concatenation*opt collectOrderByPart) +
    withinOrOverClauseKeyword*functionArgument*plus withinOrOverPart + cursorName*
    anyOf [PERCENT_ISOPEN, PERCENT_FOUND, PERCENT_NOTFOUND, PERCENT_ROWCOUNT] + DECOMPOSE*
    parens (concatenation*opt (anyOf [CANONICAL, COMPATIBILITY])) + EXTRACT*parens (regularId*FROM*
    concatenation) + anyOf [FIRST_VALUE, LAST_VALUE]*functionArgumentAnalytic*
    opt respectOrIgnoreNulls*overClause + standardPredictionFunctionKeyword*parens (expressions*
    opt costMatrixClause*opt usingClause) + TRANSLATE*parens (expression*opt (USING*anyOf [CHAR_CS,
    NCHAR_CS])*star (COMMA*expression)) + TREAT*parens (expression*AS*opt REF*typeSpec) + TRIM*
    parens (opt (opt (anyOf [LEADING, TRAILING, BOTH])*opt quotedString*FROM)*concatenation) +
    XMLAGG*parens (expression*opt orderByClause)*opt (PERIOD*generalElementPart) +
    anyOf [XMLCOLATTVAL, XMLFOREST]*parens (series xmlMultiuseExpressionElement)*opt (PERIOD*
    generalElementPart) + XMLELEMENT*parens (opt (anyOf [ENTITYESCAPING, NOENTITYESCAPING])*
    opt (anyOf [NAME, EVALNAME])*expression*opt (COMMA*xmlAttributesClause)*star (COMMA*expression*
    opt columnAlias))*opt (PERIOD*generalElementPart) + XMLEXISTS*parens (expression*
    opt xmlPassingClause) + XMLPARSE*parens (anyOf [DOCUMENT, CONTENT]*concatenation*
    opt WELLFORMED)*opt (PERIOD*generalElementPart) + XMLPI*parens ((NAME*identifier + EVALNAME*
    concatenation)*opt (COMMA*concatenation))*opt (PERIOD*generalElementPart) + XMLQUERY*
    parens (concatenation*opt xmlPassingClause*RETURNING*CONTENT*opt (NULL*ON*EMPTY))*opt (PERIOD*
    generalElementPart) + XMLROOT*parens (concatenation*opt (COMMA*xmlrootParamVersionPart)*
    opt (COMMA*xmlrootParamStandalonePart))*opt (PERIOD*generalElementPart) + XMLSERIALIZE*
    parens (anyOf [DOCUMENT, CONTENT]*concatenation*opt (AS*typeSpec)*
    opt xmlserializeParamEncondingPart*opt xmlserializeParamVersionPart*
    opt xmlserializeParamIdentPart*opt (anyOf [HIDE, SHOW]*DEFAULTS))*opt (PERIOD*
    generalElementPart) + XMLTABLE*parens (opt xmlNamespacesClause*concatenation*
    opt xmlPassingClause*opt (COLUMNS*xmlTableColumn*(COMMA*xmlTableColumn)))*opt (PERIOD*
    generalElementPart)
  | .overClauseKeyword =>
    anyOf [AVG, CORR, LAG, LEAD, MAX, MEDIAN, MIN, NTILE, RATIO_TO_REPORT, ROW_NUMBER, SUM,
    VARIANCE, REGR_, STDDEV, VAR_, COVAR_]
  | .withinOrOverClauseKeyword =>
    anyOf [CUME_DIST, DENSE_RANK, LISTAGG, PERCENT_RANK, PERCENTILE_CONT, PERCENTILE_DISC, RANK]
  | .standardPredictionFunctionKeyword =>
    anyOf [PREDICTION, PREDICTION_BOUNDS, PREDICTION_COST, PREDICTION_DETAILS,
    PREDICTION_PROBABILITY, PREDICTION_SET]
  | .overClause => OVER*parens (opt queryPartitionClause*opt (orderByClause*opt windowingClause))
  | .windowingClause =>
    windowingType*(BETWEEN*windowingElements*AND*windowingElements + windowingElements)
  | .windowingType => anyOf [ROWS, RANGE]
  | .windowingElements =>
    UNBOUNDED*PRECEDING + CURRENT*ROW + concatenation*anyOf [PRECEDING, FOLLOWING]
  | .usingClause => USING*(ASTERISK + series usingElement)
  | .usingElement => opt (IN*opt OUT + OUT)*selectListElements*opt columnAlias
  | .collectOrderByPart => ORDER*BY*concatenation
  | .withinOrOverPart => WITHIN*GROUP*parens orderByClause + overClause
  | .costMatrixClause =>
    COST*(MODEL*opt AUTO + parens (series costClassName)*VALUES*parens (opt expressions))
  | .xmlPassingClause =>
    PASSING*opt (BY*VALUE)*expression*opt columnAlias*(COMMA*expression*opt columnAlias)
  | .xmlAttributesClause =>
    XMLATTRIBUTES*parens (opt (anyOf [ENTITYESCAPING, NOENTITYESCAPING])*opt (anyOf [SCHEMACHECK,
    NOSCHEMACHECK])*series xmlMultiuseExpressionElement)
  | .xmlNamespacesClause =>
    XMLNAMESPACES*parens (opt (concatenation*columnAlias)*star (COMMA*concatenation*columnAlias)*
    opt xmlGeneralDefaultPart)
  | .xmlTableColumn =>
    xmlColumnName*(FOR*ORDINALITY + typeSpec*opt (PATH*concatenation)*opt xmlGeneralDefaultPart)
  | .xmlGeneralDefaultPart => DEFAULT*concatenation
  | .xmlMultiuseExpressionElement => expression*opt (AS*(idExpression + EVALNAME*concatenation))
  | .xmlrootParamVersionPart => VERSION*(NO*VALUE + expression)
  | .xmlrootParamStandalonePart => STANDALONE*(YES + NO*opt VALUE)
  | .xmlserializeParamEncondingPart => ENCODING*concatenation
  | .xmlserializeParamVersionPart => VERSION*concatenation
  | .xmlserializeParamIdentPart => NO*INDENT + INDENT*opt (SIZE*EQUALS_OP*concatenation)
  | kind => others kind

end BlockScript.Grammar.Expression
