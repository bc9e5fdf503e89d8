import BlockScript.Grammar.Phrase

namespace BlockScript.Grammar.Name
open Phrase Terminal Nonterminal

def rules (others : Nonterminal → Phrase) : Nonterminal → Phrase
  | .partitionExtensionClause => anyOf [SUBPARTITION, PARTITION]*opt FOR*parens (opt expressions)
  | .columnAlias => opt AS*(identifier + quotedString) + AS
  | .tableAlias | .xmlColumnName => identifier + quotedString
  | .whereClause => WHERE*(CURRENT*OF*cursorName + expression)
  | .intoClause => opt (BULK*COLLECT)*INTO*series variableName
  | .costClassName | .attributeName | .savepointName | .rollbackSegmentName | .tableVarName
  | .schemaName | .packageName | .parameterName | .referenceModelName | .mainModelName | .queryName
  | .linkName | .synonymName => identifier
  | .routineName | .constraintName => identifier*star (PERIOD*idExpression)*opt (AT_SIGN*linkName)
  | .implementationTypeName | .containerTableviewName | .functionName | .procedureName
  | .triggerName | .indexName | .collectionName => identifier*opt (PERIOD*idExpression)
  | .aggregateFunctionName | .exceptionName | .columnName => identifier*star (PERIOD*idExpression)
  | .granteeName => idExpression*opt identifiedBy
  | .roleName => idExpression + CONNECT
  | .labelName | .schemaObjectName | .dirObjectName | .userObjectName => idExpression
  | .typeName | .sequenceName | .charSetName => idExpression*star (PERIOD*idExpression)
  | .variableName =>
    opt (INTRODUCER*charSetName)*idExpression*opt (PERIOD*idExpression) + bindVariable
  | .cursorName => generalElement + bindVariable
  | .recordName => identifier + bindVariable
  | .tableviewName =>
    identifier*opt (PERIOD*idExpression)*opt (AT_SIGN*linkName + partitionExtensionClause)
  | .grantObjectName =>
    tableviewName + USER*series userObjectName + DIRECTORY*dirObjectName + EDITION*
    schemaObjectName + MINING*MODEL*schemaObjectName + JAVA*anyOf [SOURCE, RESOURCE]*
    schemaObjectName + SQL*TRANSLATION*PROFILE*schemaObjectName
  | .columnList => series columnName
  | .parenColumnList => parens columnList
  | .constant =>
    TIMESTAMP*(quotedString + bindVariable)*opt (AT*TIME*ZONE*quotedString) + INTERVAL*
    (quotedString + bindVariable + generalElementPart)*anyOf [YEAR, MONTH, DAY, HOUR, MINUTE,
    SECOND]*opt (parens ((UNSIGNED_INTEGER + bindVariable)*opt (COMMA*(UNSIGNED_INTEGER +
    bindVariable))))*opt (TO*(DAY + HOUR + MINUTE + SECOND*opt (parens (UNSIGNED_INTEGER +
    bindVariable)))) + numeric + DATE*quotedString + quotedString + NULL + TRUE + FALSE +
    DBTIMEZONE + SESSIONTIMEZONE + MINVALUE + MAXVALUE + DEFAULT
  | .numeric => anyOf [UNSIGNED_INTEGER, APPROXIMATE_NUM_LIT]
  | .numericNegative => MINUS_SIGN*numeric
  | .quotedString => anyOf [CHAR_STRING, NATIONAL_CHAR_STRING_LIT]
  | .identifier => opt (INTRODUCER*charSetName)*idExpression
  | .idExpression => regularId + DELIMITED_ID
  | .outerJoinSign => parens PLUS_SIGN
  | .regularId => anyOf (REGULAR_ID :: nameWords)
  | .stringFunctionName => anyOf [CHR, DECODE, SUBSTR, TO_CHAR, TRIM]
  | .numericFunctionName => anyOf [AVG, COUNT, NVL, ROUND, SUM]
  | .keepClause => KEEP*parens (DENSE_RANK*anyOf [FIRST, LAST]*orderByClause)*opt overClause
  | .functionArgument => parens (star (opt COMMA*argument))*opt keepClause
  | .functionArgumentAnalytic =>
    parens (star (opt COMMA*argument*opt respectOrIgnoreNulls))*opt keepClause
  | .functionArgumentModeling =>
    parens (columnName*opt (COMMA*(numeric + NULL)*opt (COMMA*(numeric + NULL)))*USING*
    (tableviewName*PERIOD*ASTERISK + ASTERISK + series (expression*opt columnAlias)))*opt keepClause
  | .respectOrIgnoreNulls => anyOf [RESPECT, IGNORE]*NULLS
  | .argument => opt (identifier*EQUALS_OP*GREATER_THAN_OP)*expression
  | .typeSpec => datatype + opt REF*typeName*opt (anyOf [PERCENT_ROWTYPE, PERCENT_TYPE])
  | .datatype =>
    nativeDatatypeElement*opt precisionPart*opt (WITH*opt LOCAL*TIME*ZONE + CHARACTER*SET*
    charSetName) + INTERVAL*anyOf [YEAR, DAY]*opt (parens expression)*TO*anyOf [MONTH, SECOND]*
    opt (parens expression)
  | .precisionPart => parens (numeric*opt (COMMA*numeric)*opt (anyOf [CHAR, BYTE]))
  | .nativeDatatypeElement =>
    BINARY_INTEGER + PLS_INTEGER + NATURAL + BINARY_FLOAT + BINARY_DOUBLE + NATURALN + POSITIVE +
    POSITIVEN + SIGNTYPE + SIMPLE_INTEGER + NVARCHAR2 + DEC + INTEGER + INT + NUMERIC + SMALLINT +
    NUMBER + DECIMAL + DOUBLE*opt PRECISION + FLOAT + REAL + NCHAR + LONG*opt RAW + CHAR +
    CHARACTER + VARCHAR2 + VARCHAR + STRING + RAW + BOOLEAN + DATE + ROWID + UROWID + YEAR + MONTH +
    DAY + HOUR + MINUTE + SECOND + TIMEZONE_HOUR + TIMEZONE_MINUTE + TIMEZONE_REGION +
    TIMEZONE_ABBR + TIMESTAMP + TIMESTAMP_UNCONSTRAINED + TIMESTAMP_TZ_UNCONSTRAINED +
    TIMESTAMP_LTZ_UNCONSTRAINED + YMINTERVAL_UNCONSTRAINED + DSINTERVAL_UNCONSTRAINED + BFILE +
    BLOB + CLOB + NCLOB + MLSLABEL
  | .bindVariable =>
    (BINDVAR + COLON*UNSIGNED_INTEGER)*opt (opt INDICATOR*(BINDVAR + COLON*UNSIGNED_INTEGER))*
    star (PERIOD*generalElementPart)
  | .generalElement => generalElementPart*star (PERIOD*generalElementPart)
  | .generalElementPart =>
    opt (INTRODUCER*charSetName)*idExpression*star (PERIOD*idExpression)*opt (AT_SIGN*linkName)*
    opt functionArgument
  | .tableElement => opt (INTRODUCER*charSetName)*idExpression*star (PERIOD*idExpression)
  | .objectPrivilege =>
    ALL*opt PRIVILEGES + ALTER + DEBUG + DELETE + EXECUTE + FLASHBACK*ARCHIVE + INDEX + INHERIT*
    PRIVILEGES + INSERT + KEEP*SEQUENCE + MERGE*VIEW + ON*COMMIT*REFRESH + QUERY*REWRITE + READ +
    REFERENCES + SELECT + TRANSLATE*SQL + UNDER + UPDATE + USE + WRITE
  | .systemPrivilege =>
    ALL*PRIVILEGES + ADVISOR + ADMINISTER*opt ANY*SQL*TUNING*SET + anyOf [ALTER, CREATE, DROP]*ANY*
    SQL*PROFILE + ADMINISTER*SQL*MANAGEMENT*OBJECT + CREATE*opt ANY*CLUSTER + anyOf [ALTER, DROP]*
    ANY*CLUSTER + anyOf [CREATE, DROP]*ANY*CONTEXT + EXEMPT*REDACTION*POLICY + ALTER*DATABASE +
    anyOf [ALTER, CREATE]*opt PUBLIC*DATABASE*LINK + DROP*PUBLIC*DATABASE*LINK + DEBUG*CONNECT*
    SESSION + DEBUG*ANY*PROCEDURE + ANALYZE*ANY*DICTIONARY + CREATE*opt ANY*DIMENSION +
    anyOf [ALTER, DROP]*ANY*DIMENSION + anyOf [CREATE, DROP]*ANY*DIRECTORY + anyOf [CREATE, DROP]*
    ANY*EDITION + FLASHBACK*(ARCHIVE*ADMINISTER + ANY*TABLE) + anyOf [ALTER, CREATE, DROP]*ANY*
    INDEX + CREATE*opt ANY*INDEXTYPE + anyOf [ALTER, DROP, EXECUTE]*ANY*INDEXTYPE + CREATE*
    opt (anyOf [ANY, EXTERNAL])*JOB + EXECUTE*ANY*anyOf [CLASS, PROGRAM] + MANAGE*SCHEDULER +
    ADMINISTER*KEY*MANAGEMENT + CREATE*opt ANY*LIBRARY + anyOf [ALTER, DROP, EXECUTE]*ANY*LIBRARY +
    LOGMINING + CREATE*opt ANY*MATERIALIZED*VIEW + anyOf [ALTER, DROP]*ANY*MATERIALIZED*VIEW +
    opt GLOBAL*QUERY*REWRITE + ON*COMMIT*REFRESH + CREATE*opt ANY*MINING*MODEL + anyOf [ALTER, DROP,
    SELECT, COMMENT]*ANY*MINING*MODEL + CREATE*opt ANY*CUBE + anyOf [ALTER, DROP, SELECT, UPDATE]*
    ANY*CUBE + CREATE*opt ANY*MEASURE*FOLDER + anyOf [DELETE, DROP, INSERT]*ANY*MEASURE*FOLDER +
    CREATE*opt ANY*CUBE*DIMENSION + anyOf [ALTER, DELETE, DROP, INSERT, SELECT, UPDATE]*ANY*CUBE*
    DIMENSION + CREATE*opt ANY*CUBE*BUILD*PROCESS + anyOf [DROP, UPDATE]*ANY*CUBE*BUILD*PROCESS +
    CREATE*opt ANY*OPERATOR + anyOf [ALTER, DROP, EXECUTE]*ANY*OPERATOR + anyOf [CREATE, ALTER,
    DROP]*ANY*OUTLINE + CREATE*PLUGGABLE*DATABASE + SET*CONTAINER + CREATE*opt ANY*PROCEDURE +
    anyOf [ALTER, DROP, EXECUTE]*ANY*PROCEDURE + anyOf [CREATE, ALTER, DROP]*PROFILE + CREATE*ROLE +
    anyOf [ALTER, DROP, GRANT]*ANY*ROLE + anyOf [CREATE, ALTER, DROP]*ROLLBACK*SEGMENT + CREATE*
    opt ANY*SEQUENCE + anyOf [ALTER, DROP, SELECT]*ANY*SEQUENCE + anyOf [ALTER, CREATE, RESTRICTED]*
    SESSION + ALTER*RESOURCE*COST + CREATE*opt ANY*SQL*TRANSLATION*PROFILE + anyOf [ALTER, DROP,
    USE]*ANY*SQL*TRANSLATION*PROFILE + TRANSLATE*ANY*SQL + CREATE*opt ANY*SYNONYM + DROP*ANY*
    SYNONYM + anyOf [CREATE, DROP]*PUBLIC*SYNONYM + CREATE*opt ANY*TABLE + anyOf [ALTER, BACKUP,
    COMMENT, DELETE, DROP, INSERT, LOCK, READ, SELECT, UPDATE]*ANY*TABLE + anyOf [CREATE, ALTER,
    DROP, MANAGE, UNLIMITED]*TABLESPACE + CREATE*opt ANY*TRIGGER + anyOf [ALTER, DROP]*ANY*TRIGGER +
    ADMINISTER*DATABASE*TRIGGER + CREATE*opt ANY*TYPE + anyOf [ALTER, DROP, EXECUTE, UNDER]*ANY*
    TYPE + anyOf [CREATE, ALTER, DROP]*USER + CREATE*opt ANY*VIEW + anyOf [DROP, UNDER, MERGE]*ANY*
    VIEW + anyOf [ANALYZE, AUDIT]*ANY + BECOME*USER + CHANGE*NOTIFICATION + EXEMPT*ACCESS*POLICY +
    FORCE*opt ANY*TRANSACTION + GRANT*ANY*opt OBJECT*PRIVILEGE + INHERIT*ANY*PRIVILEGES + KEEP*DATE*
    TIME + KEEP*SYSGUID + PURGE*DBA_RECYCLEBIN + RESUMABLE + SELECT*ANY*anyOf [DICTIONARY,
    TRANSACTION] + SYSBACKUP + SYSDBA + SYSDG + SYSKM + SYSOPER
  | kind => others kind

end BlockScript.Grammar.Name
