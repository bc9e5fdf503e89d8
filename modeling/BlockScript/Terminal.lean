/-!
The terminals of the language: reserved and unreserved words, punctuation marks, the classes of
literals and names, and the comments that stay beside the text.
-/

namespace BlockScript

inductive Terminal where
  | ACCESS | ACCOUNT | ADMIN | ADMINISTER | ADVISOR | ALL | ALLOCATE | ALLOW | ALTER | ALWAYS | AND
  | ANY | ANYSCHEMA | ARCHIVE | AS | ASC | ASYNCHRONOUS | AUTHENTICATED | AUTHENTICATION
  | AUTOALLOCATE | AUTOEXTEND | BACKUP | BASIC | BASICFILE | BECOME | BEGIN | BETWEEN | BIGFILE
  | BINARY | BLOCKSIZE | BREADTH | BUFFER_POOL | BUILD | BY | CACHE | CASE | CERTIFICATE | CHANGE
  | CHECK | CHECKPOINT | CHUNK | CLASS | COALESCE | COLUMN | COLUMN_VALUE | COMPACT | COMPRESS
  | COMPUTE | CONNECT_BY_ROOT | CONNECT | CONTAINER | CONTAINER_DATA | CREATE | CREATION | CURRENT
  | DATAFILE | DATE | DBA_RECYCLEBIN | DEALLOCATE | DECLARE | DECRYPT | DEDUPLICATE | DEFAULT
  | DEFERRABLE | DELEGATE | DEMAND | DEPTH | DESC | DICTIONARY | DIRECTORY | DISALLOW | DISTINCT
  | DISTINGUISHED | DROP | EDITION | EDITIONING | EDITIONS | ELSE | ELSIF | ENCRYPT | ENCRYPTION
  | END | ENFORCED | ENTERPRISE | EXCEPT | EXCLUDING | EXCLUSIVE | EXEMPT | EXPIRE | EXTENT
  | EXTERNALLY | FALSE | FAST | FETCH | FILESYSTEM_LIKE_LOGGING | FLASHBACK | FLASH_CACHE | FOLDER
  | FOREIGN | FOR | FREELIST | FREELISTS | FREEPOOLS | FROM | GENERATED | GLOBAL | GLOBALLY | GOTO
  | GRANT | GROUP | GROUPS | GUARANTEE | HAVING | HIERARCHY | HIGH | IDENTIFIED | IDENTIFIER | IF
  | INDEX | INDEXTYPE | INHERIT | IN | INITIAL | INITIALLY | INITRANS | INSERT | INSTANCE
  | INTERSECT | INTO | IS | JOB | KEEP_DUPLICATES | LESS | LEVELS | LIKE | LIST | LOB | LOBS
  | LOCATOR | LOCK | LOGGING | LOGMINING | LOW | MANAGE | MANAGEMENT | MANUAL | MAPPING | MASTER
  | MATERIALIZED | MAXSIZE | MEASURE | MEDIUM | MINEXTENTS | MINIMIZE | MINING | MINUS | MODE
  | MOVEMENT | MOVE | NEVER | NOCACHE | NOCOMPRESS | NOGUARANTEE | NOLOGGING | NOMAPPING
  | NOMAXVALUE | NOMINIMIZE | NOMINVALUE | NONSCHEMA | NOORDER | NOPARALLEL | NORELY
  | NOROWDEPENDENCIES | NOTIFICATION | NOT | NOVALIDATE | NOWAIT | NULL | OFFLINE | OF | OIDINDEX
  | OLTP | ONLINE | ON | OPTIMAL | OPTION | ORDER | OR | OUTLINE | OVERFLOW | PARALLEL | PASSWORD
  | PCTFREE | PCTINCREASE | PCTTHRESHOLD | PCTUSED | PCTVERSION | PIPE | PIVOT | PLUGGABLE | POLICY
  | PREBUILT | PRESERVE | PRIMARY | PRIVILEGE | PRIVILEGES | PROCEDURE | PROCESS | PROFILE | PUBLIC
  | PURGE | QUERY | QUOTA | READS | REBUILD | RECORDS_PER_BLOCK | RECYCLE | REDACTION | REDUCED
  | REFERENCES | REFRESH | REKEY | RELATIONAL | RELY | REMOVE | REQUIRED | RESOURCE | RESTRICTED
  | RESUMABLE | RETENTION | REVOKE | REWRITE | ROLE | ROLES | ROWDEPENDENCIES | SALT | SCHEDULER
  | SCOPE | SEARCH | SECUREFILE | SELECT | SEQUENCE | SESSION | SHARE | SHRINK | SIZE | SMALLFILE
  | SORT | SOURCE | SPACE_KEYWORD | START | STORAGE | SUPPLEMENTAL | SYNCHRONOUS | SYNONYM
  | SYSBACKUP | SYSDBA | SYSDG | SYSGUID | SYSKM | SYSOPER | SYSTEM | TABLESPACE | TABLES | TABLE
  | TEMPFILE | THAN | THEN | THE | THROUGH | TO | TRANSLATION | TRIGGERS | TRUE | TRUSTED | TUNING
  | UNDO | UNIFORM | UNION | UNIQUE | UNLOCK | UNPIVOT | UNUSED | UPDATE | UPGRADE | USING | VALUES
  | VARRAYS | VIEW | VIRTUAL | WHEN | WHERE | WITHOUT | WITH | XMLSCHEMA | DECODE | NVL | ROUND
  | TO_CHAR | LEAST | GREATEST | TO_DATE | ADD | AFTER | AGENT | AGGREGATE | A_LETTER | ANALYZE
  | ARRAY | ASSOCIATE | AT | ATTRIBUTE | AUDIT | AUTHID | AUTO | AUTOMATIC | AUTONOMOUS_TRANSACTION
  | BATCH | BEFORE | BFILE | BINARY_DOUBLE | BINARY_FLOAT | BINARY_INTEGER | BLOB | BLOCK | BODY
  | BOOLEAN | BOTH | BULK | BYTE | CALL | CANONICAL | CASCADE | CAST | CHARACTER | CHAR | CHAR_CS
  | CHR | C_LETTER | CLOB | CLOSE | CLUSTER | COLLECT | COLUMNS | COMMENT | COMMIT | COMMITTED
  | COMPATIBILITY | COMPILE | COMPLETE | COMPOUND | CONSTANT | CONSTRAINT | CONSTRAINTS
  | CONSTRUCTOR | CONTENT | CONTEXT | CONTINUE | CONVERT | CORRUPT_XID_ALL | CORRUPT_XID | COST
  | COUNT | CROSS | CUBE | CURRENT_USER | CURSOR | CUSTOMDATUM | CYCLE | DATABASE | DATA | DAY
  | DB_ROLE_CHANGE | DBTIMEZONE | DDL | DEBUG | DEC | DECIMAL | DECOMPOSE | DECREMENT | DEFAULTS
  | DEFERRED | DEFINER | DELETE | DETERMINISTIC | DIMENSION | DISABLE | DISASSOCIATE | DOCUMENT
  | DOUBLE | DSINTERVAL_UNCONSTRAINED | EACH | ELEMENT | EMPTY | ENABLE | ENCODING | ENTITYESCAPING
  | ERR | ERRORS | ESCAPE | EVALNAME | EXCEPTION | EXCEPTION_INIT | EXCEPTIONS | EXCLUDE | EXECUTE
  | EXISTS | EXIT | EXPLAIN | EXTERNAL | EXTRACT | FAILURE | FINAL | FIRST | FIRST_VALUE | FLOAT
  | FOLLOWING | FOLLOWS | FORALL | FORCE | FULL | FUNCTION | GROUPING | HASH | HIDE | HOUR | ID
  | IGNORE | IMMEDIATE | INCLUDE | INCLUDING | INCREMENT | INDENT | INDEXED | INDICATOR | INDICES
  | INFINITE | INLINE | INNER | INOUT | INSTANTIABLE | INSTEAD | INTEGER | INTERVAL | INT
  | INVALIDATE | ISOLATION | ITERATE | JAVA | JOIN | KEEP | KEY | LANGUAGE | LAST | LAST_VALUE
  | LEADING | LEFT | LEVEL | LIBRARY | LIKE2 | LIKE4 | LIKEC | LIMIT | LINK | LOCAL | LOCKED | LOG
  | LOGOFF | LOGON | LONG | LOOP | MAIN | MAP | MATCHED | MAXVALUE | MEASURES | MEMBER | MERGE
  | MINIMUM | MINUTE | MINVALUE | MLSLABEL | MODEL | MODIFY | MONTH | MULTISET | NAME | NAN
  | NATURAL | NATURALN | NAV | NCHAR_CS | NCHAR | NCLOB | NESTED | NEW | NEXT | NOAUDIT | NOCOPY
  | NOCYCLE | NOENTITYESCAPING | NONE | NO | NOSCHEMACHECK | NULLS | NUMBER | NUMERIC | NVARCHAR2
  | OBJECT | OFF | OID | OLD | ONLY | OPEN | OPERATOR | ORADATA | ORDINALITY | OSERROR | OUTER | OUT
  | OVER | OVERRIDING | PACKAGE | PARALLEL_ENABLE | PARAMETERS | PARENT | PARTITION | PASSING | PATH
  | PIPELINED | PLAN | PLS_INTEGER | POSITIVEN | POSITIVE | PRAGMA | PRECEDING | PRECISION | PRESENT
  | PRIOR | PROGRAM | RAISE | RANGE | RAW | READ | REAL | RECORD | REFERENCE | REFERENCING | REF
  | REJECT | RELIES_ON | RENAME | REPLACE | RESPECT | RESTRICT_REFERENCES | RESULT_CACHE | RESULT
  | RETURNING | RETURN | REUSE | REVERSE | RIGHT | ROLLBACK | ROLLUP | ROWID | ROW | ROWS | RULES
  | SAMPLE | SAVEPOINT | SAVE | SCHEMACHECK | SCHEMA | SCN | SECOND | SEED | SEGMENT | SELF
  | SEQUENTIAL | SERIALIZABLE | SERIALLY_REUSABLE | SERVERERROR | SESSIONTIMEZONE | SET | SETS
  | SETTINGS | SHOW | SHUTDOWN | SIBLINGS | SIGNTYPE | SIMPLE_INTEGER | SINGLE | SKIP_ | SMALLINT
  | SNAPSHOT | SOME | SPECIFICATION | SQLDATA | SQLERROR | SQL | STANDALONE | STARTUP | STATEMENT_ID
  | STATEMENT | STATIC | STATISTICS | STORE | STRING | SUBMULTISET | SUBPARTITION | SUBSTITUTABLE
  | SUBTYPE | SUCCESS | SUSPEND | SYSDATE | TEMPORARY | TIMESTAMP_LTZ_UNCONSTRAINED | TIMESTAMP
  | TIMESTAMP_TZ_UNCONSTRAINED | TIMESTAMP_UNCONSTRAINED | TIME | TIMEZONE_ABBR | TIMEZONE_HOUR
  | TIMEZONE_MINUTE | TIMEZONE_REGION | TRAILING | TRANSACTION | TRANSLATE | TREAT | TRIGGER
  | TRUNCATE | TYPE | UNBOUNDED | UNDER | UNLIMITED | UNTIL | UPDATED | UPSERT | UROWID | USERS
  | USER | USE | VALIDATE | VALUE | VARCHAR2 | VARCHAR | VARIABLE | VARRAY | VARYING | VERSIONS
  | VERSION | WAIT | WARNING | WELLFORMED | WHENEVER | WHILE | WITHIN | WORK | WRITE | XMLAGG
  | XMLATTRIBUTES | XMLCAST | XMLCOLATTVAL | XMLELEMENT | XMLEXISTS | XMLFOREST | XMLNAMESPACES
  | XMLPARSE | XMLPI | XMLQUERY | XMLROOT | XMLSERIALIZE | XMLTABLE | XMLTYPE | XML | YEAR | YES
  | YMINTERVAL_UNCONSTRAINED | ZONE | PREDICTION | PREDICTION_BOUNDS | PREDICTION_COST
  | PREDICTION_DETAILS | PREDICTION_PROBABILITY | PREDICTION_SET | CUME_DIST | DENSE_RANK | LISTAGG
  | PERCENT_RANK | PERCENTILE_CONT | PERCENTILE_DISC | RANK | AVG | CORR | COVAR_ | LAG | LEAD | MAX
  | MEDIAN | MIN | NTILE | RATIO_TO_REPORT | REGR_ | ROW_NUMBER | SUBSTR | TRIM | SUM | STDDEV
  | VAR_ | VARIANCE | PERCENT_FOUND | PERCENT_ISOPEN | PERCENT_NOTFOUND | PERCENT_ROWCOUNT
  | PERCENT_ROWTYPE | PERCENT_TYPE | NATIONAL_CHAR_STRING_LIT | BIT_STRING_LIT | HEX_STRING_LIT
  | DOUBLE_PERIOD | PERIOD | UNSIGNED_INTEGER | APPROXIMATE_NUM_LIT | CHAR_STRING | DELIMITED_ID
  | PERCENT | AMPERSAND | LEFT_PAREN | RIGHT_PAREN | DOUBLE_ASTERISK | ASTERISK | PLUS_SIGN
  | MINUS_SIGN | COMMA | SOLIDUS | AT_SIGN | ASSIGN_OP | BINDVAR | NOT_EQUAL_OP
  | CARRET_OPERATOR_PART | TILDE_OPERATOR_PART | EXCLAMATION_OPERATOR_PART | GREATER_THAN_OP
  | LESS_THAN_OP | COLON | SEMICOLON | BAR | EQUALS_OP | LEFT_BRACKET | RIGHT_BRACKET | INTRODUCER
  | SINGLE_LINE_COMMENT | MULTI_LINE_COMMENT | START_CMD | REGULAR_ID | ZV | EOF
deriving DecidableEq, Inhabited, Repr

namespace Terminal

def name (kind : Terminal) : String := ((reprStr kind).splitOn ".").getLastD ""

def words : List String :=
  ["ACCESS", "ACCOUNT", "ADMIN", "ADMINISTER", "ADVISOR", "ALL", "ALLOCATE", "ALLOW", "ALTER",
    "ALWAYS", "AND", "ANY", "ANYSCHEMA", "ARCHIVE", "AS", "ASC", "ASYNCHRONOUS", "AUTHENTICATED",
    "AUTHENTICATION", "AUTOALLOCATE", "AUTOEXTEND", "BACKUP", "BASIC", "BASICFILE", "BECOME",
    "BEGIN", "BETWEEN", "BIGFILE", "BINARY", "BLOCKSIZE", "BREADTH", "BUFFER_POOL", "BUILD", "BY",
    "CACHE", "CASE", "CERTIFICATE", "CHANGE", "CHECK", "CHECKPOINT", "CHUNK", "CLASS", "COALESCE",
    "COLUMN", "COLUMN_VALUE", "COMPACT", "COMPRESS", "COMPUTE", "CONNECT_BY_ROOT", "CONNECT",
    "CONTAINER", "CONTAINER_DATA", "CREATE", "CREATION", "CURRENT", "DATAFILE", "DATE",
    "DBA_RECYCLEBIN", "DEALLOCATE", "DECLARE", "DECRYPT", "DEDUPLICATE", "DEFAULT", "DEFERRABLE",
    "DELEGATE", "DEMAND", "DEPTH", "DESC", "DICTIONARY", "DIRECTORY", "DISALLOW", "DISTINCT",
    "DISTINGUISHED", "DROP", "EDITION", "EDITIONING", "EDITIONS", "ELSE", "ELSIF", "ENCRYPT",
    "ENCRYPTION", "END", "ENFORCED", "ENTERPRISE", "EXCEPT", "EXCLUDING", "EXCLUSIVE", "EXEMPT",
    "EXPIRE", "EXTENT", "EXTERNALLY", "FALSE", "FAST", "FETCH", "FILESYSTEM_LIKE_LOGGING",
    "FLASHBACK", "FLASH_CACHE", "FOLDER", "FOREIGN", "FOR", "FREELIST", "FREELISTS", "FREEPOOLS",
    "FROM", "GENERATED", "GLOBAL", "GLOBALLY", "GOTO", "GRANT", "GROUP", "GROUPS", "GUARANTEE",
    "HAVING", "HIERARCHY", "HIGH", "IDENTIFIED", "IDENTIFIER", "IF", "INDEX", "INDEXTYPE",
    "INHERIT", "IN", "INITIAL", "INITIALLY", "INITRANS", "INSERT", "INSTANCE", "INTERSECT", "INTO",
    "IS", "JOB", "KEEP_DUPLICATES", "LESS", "LEVELS", "LIKE", "LIST", "LOB", "LOBS", "LOCATOR",
    "LOCK", "LOGGING", "LOGMINING", "LOW", "MANAGE", "MANAGEMENT", "MANUAL", "MAPPING", "MASTER",
    "MATERIALIZED", "MAXSIZE", "MEASURE", "MEDIUM", "MINEXTENTS", "MINIMIZE", "MINING", "MINUS",
    "MODE", "MOVEMENT", "MOVE", "NEVER", "NOCACHE", "NOCOMPRESS", "NOGUARANTEE", "NOLOGGING",
    "NOMAPPING", "NOMAXVALUE", "NOMINIMIZE", "NOMINVALUE", "NONSCHEMA", "NOORDER", "NOPARALLEL",
    "NORELY", "NOROWDEPENDENCIES", "NOTIFICATION", "NOT", "NOVALIDATE", "NOWAIT", "NULL", "OFFLINE",
    "OF", "OIDINDEX", "OLTP", "ONLINE", "ON", "OPTIMAL", "OPTION", "ORDER", "OR", "OUTLINE",
    "OVERFLOW", "PARALLEL", "PASSWORD", "PCTFREE", "PCTINCREASE", "PCTTHRESHOLD", "PCTUSED",
    "PCTVERSION", "PIPE", "PIVOT", "PLUGGABLE", "POLICY", "PREBUILT", "PRESERVE", "PRIMARY",
    "PRIVILEGE", "PRIVILEGES", "PROCEDURE", "PROCESS", "PROFILE", "PUBLIC", "PURGE", "QUERY",
    "QUOTA", "READS", "REBUILD", "RECORDS_PER_BLOCK", "RECYCLE", "REDACTION", "REDUCED",
    "REFERENCES", "REFRESH", "REKEY", "RELATIONAL", "RELY", "REMOVE", "REQUIRED", "RESOURCE",
    "RESTRICTED", "RESUMABLE", "RETENTION", "REVOKE", "REWRITE", "ROLE", "ROLES", "ROWDEPENDENCIES",
    "SALT", "SCHEDULER", "SCOPE", "SEARCH", "SECUREFILE", "SELECT", "SEQUENCE", "SESSION", "SHARE",
    "SHRINK", "SIZE", "SMALLFILE", "SORT", "SOURCE", "SPACE", "START", "STORAGE", "SUPPLEMENTAL",
    "SYNCHRONOUS", "SYNONYM", "SYSBACKUP", "SYSDBA", "SYSDG", "SYSGUID", "SYSKM", "SYSOPER",
    "SYSTEM", "TABLESPACE", "TABLES", "TABLE", "TEMPFILE", "THAN", "THEN", "THE", "THROUGH", "TO",
    "TRANSLATION", "TRIGGERS", "TRUE", "TRUSTED", "TUNING", "UNDO", "UNIFORM", "UNION", "UNIQUE",
    "UNLOCK", "UNPIVOT", "UNUSED", "UPDATE", "UPGRADE", "USING", "VALUES", "VARRAYS", "VIEW",
    "VIRTUAL", "WHEN", "WHERE", "WITHOUT", "WITH", "XMLSCHEMA", "DECODE", "NVL", "ROUND", "TO_CHAR",
    "LEAST", "GREATEST", "TO_DATE", "ADD", "AFTER", "AGENT", "AGGREGATE", "A", "ANALYZE", "ARRAY",
    "ASSOCIATE", "AT", "ATTRIBUTE", "AUDIT", "AUTHID", "AUTO", "AUTOMATIC",
    "AUTONOMOUS_TRANSACTION", "BATCH", "BEFORE", "BFILE", "BINARY_DOUBLE", "BINARY_FLOAT",
    "BINARY_INTEGER", "BLOB", "BLOCK", "BODY", "BOOLEAN", "BOTH", "BULK", "BYTE", "CALL",
    "CANONICAL", "CASCADE", "CAST", "CHARACTER", "CHAR", "CHAR_CS", "CHR", "C", "CLOB", "CLOSE",
    "CLUSTER", "COLLECT", "COLUMNS", "COMMENT", "COMMIT", "COMMITTED", "COMPATIBILITY", "COMPILE",
    "COMPLETE", "COMPOUND", "CONSTANT", "CONSTRAINT", "CONSTRAINTS", "CONSTRUCTOR", "CONTENT",
    "CONTEXT", "CONTINUE", "CONVERT", "CORRUPT_XID_ALL", "CORRUPT_XID", "COST", "COUNT", "CROSS",
    "CUBE", "CURRENT_USER", "CURSOR", "CUSTOMDATUM", "CYCLE", "DATABASE", "DATA", "DAY",
    "DB_ROLE_CHANGE", "DBTIMEZONE", "DDL", "DEBUG", "DEC", "DECIMAL", "DECOMPOSE", "DECREMENT",
    "DEFAULTS", "DEFERRED", "DEFINER", "DELETE", "DETERMINISTIC", "DIMENSION", "DISABLE",
    "DISASSOCIATE", "DOCUMENT", "DOUBLE", "DSINTERVAL_UNCONSTRAINED", "EACH", "ELEMENT", "EMPTY",
    "ENABLE", "ENCODING", "ENTITYESCAPING", "ERR", "ERRORS", "ESCAPE", "EVALNAME", "EXCEPTION",
    "EXCEPTION_INIT", "EXCEPTIONS", "EXCLUDE", "EXECUTE", "EXISTS", "EXIT", "EXPLAIN", "EXTERNAL",
    "EXTRACT", "FAILURE", "FINAL", "FIRST", "FIRST_VALUE", "FLOAT", "FOLLOWING", "FOLLOWS",
    "FORALL", "FORCE", "FULL", "FUNCTION", "GROUPING", "HASH", "HIDE", "HOUR", "ID", "IGNORE",
    "IMMEDIATE", "INCLUDE", "INCLUDING", "INCREMENT", "INDENT", "INDEXED", "INDICATOR", "INDICES",
    "INFINITE", "INLINE", "INNER", "INOUT", "INSTANTIABLE", "INSTEAD", "INTEGER", "INTERVAL", "INT",
    "INVALIDATE", "ISOLATION", "ITERATE", "JAVA", "JOIN", "KEEP", "KEY", "LANGUAGE", "LAST",
    "LAST_VALUE", "LEADING", "LEFT", "LEVEL", "LIBRARY", "LIKE2", "LIKE4", "LIKEC", "LIMIT", "LINK",
    "LOCAL", "LOCKED", "LOG", "LOGOFF", "LOGON", "LONG", "LOOP", "MAIN", "MAP", "MATCHED",
    "MAXVALUE", "MEASURES", "MEMBER", "MERGE", "MINIMUM", "MINUTE", "MINVALUE", "MLSLABEL", "MODEL",
    "MODIFY", "MONTH", "MULTISET", "NAME", "NAN", "NATURAL", "NATURALN", "NAV", "NCHAR_CS", "NCHAR",
    "NCLOB", "NESTED", "NEW", "NEXT", "NOAUDIT", "NOCOPY", "NOCYCLE", "NOENTITYESCAPING", "NONE",
    "NO", "NOSCHEMACHECK", "NULLS", "NUMBER", "NUMERIC", "NVARCHAR2", "OBJECT", "OFF", "OID", "OLD",
    "ONLY", "OPEN", "OPERATOR", "ORADATA", "ORDINALITY", "OSERROR", "OUTER", "OUT", "OVER",
    "OVERRIDING", "PACKAGE", "PARALLEL_ENABLE", "PARAMETERS", "PARENT", "PARTITION", "PASSING",
    "PATH", "PIPELINED", "PLAN", "PLS_INTEGER", "POSITIVEN", "POSITIVE", "PRAGMA", "PRECEDING",
    "PRECISION", "PRESENT", "PRIOR", "PROGRAM", "RAISE", "RANGE", "RAW", "READ", "REAL", "RECORD",
    "REFERENCE", "REFERENCING", "REF", "REJECT", "RELIES_ON", "RENAME", "REPLACE", "RESPECT",
    "RESTRICT_REFERENCES", "RESULT_CACHE", "RESULT", "RETURNING", "RETURN", "REUSE", "REVERSE",
    "RIGHT", "ROLLBACK", "ROLLUP", "ROWID", "ROW", "ROWS", "RULES", "SAMPLE", "SAVEPOINT", "SAVE",
    "SCHEMACHECK", "SCHEMA", "SCN", "SECOND", "SEED", "SEGMENT", "SELF", "SEQUENTIAL",
    "SERIALIZABLE", "SERIALLY_REUSABLE", "SERVERERROR", "SESSIONTIMEZONE", "SET", "SETS",
    "SETTINGS", "SHOW", "SHUTDOWN", "SIBLINGS", "SIGNTYPE", "SIMPLE_INTEGER", "SINGLE", "SKIP",
    "SMALLINT", "SNAPSHOT", "SOME", "SPECIFICATION", "SQLDATA", "SQLERROR", "SQL", "STANDALONE",
    "STARTUP", "STATEMENT_ID", "STATEMENT", "STATIC", "STATISTICS", "STORE", "STRING",
    "SUBMULTISET", "SUBPARTITION", "SUBSTITUTABLE", "SUBTYPE", "SUCCESS", "SUSPEND", "SYSDATE",
    "TEMPORARY", "TIMESTAMP_LTZ_UNCONSTRAINED", "TIMESTAMP", "TIMESTAMP_TZ_UNCONSTRAINED",
    "TIMESTAMP_UNCONSTRAINED", "TIME", "TIMEZONE_ABBR", "TIMEZONE_HOUR", "TIMEZONE_MINUTE",
    "TIMEZONE_REGION", "TRAILING", "TRANSACTION", "TRANSLATE", "TREAT", "TRIGGER", "TRUNCATE",
    "TYPE", "UNBOUNDED", "UNDER", "UNLIMITED", "UNTIL", "UPDATED", "UPSERT", "UROWID", "USERS",
    "USER", "USE", "VALIDATE", "VALUE", "VARCHAR2", "VARCHAR", "VARIABLE", "VARRAY", "VARYING",
    "VERSIONS", "VERSION", "WAIT", "WARNING", "WELLFORMED", "WHENEVER", "WHILE", "WITHIN", "WORK",
    "WRITE", "XMLAGG", "XMLATTRIBUTES", "XMLCAST", "XMLCOLATTVAL", "XMLELEMENT", "XMLEXISTS",
    "XMLFOREST", "XMLNAMESPACES", "XMLPARSE", "XMLPI", "XMLQUERY", "XMLROOT", "XMLSERIALIZE",
    "XMLTABLE", "XMLTYPE", "XML", "YEAR", "YES", "YMINTERVAL_UNCONSTRAINED", "ZONE", "PREDICTION",
    "PREDICTION_BOUNDS", "PREDICTION_COST", "PREDICTION_DETAILS", "PREDICTION_PROBABILITY",
    "PREDICTION_SET", "CUME_DIST", "DENSE_RANK", "LISTAGG", "PERCENT_RANK", "PERCENTILE_CONT",
    "PERCENTILE_DISC", "RANK", "AVG", "CORR", "COVAR_", "LAG", "LEAD", "MAX", "MEDIAN", "MIN",
    "NTILE", "RATIO_TO_REPORT", "REGR_", "ROW_NUMBER", "SUBSTR", "TRIM", "SUM", "STDDEV", "VAR_",
    "VARIANCE"]

/-- The words that may serve as names: all behind the reserved ones. -/
def nameWords : List Terminal := (List.range' 302 408).map ofNat

def ofWord (word : String) : Terminal := ((words.idxOf? word).map ofNat).getD .REGULAR_ID

def marks : List (String × Terminal) :=
  [("%FOUND", .PERCENT_FOUND), ("%ISOPEN", .PERCENT_ISOPEN), ("%NOTFOUND", .PERCENT_NOTFOUND),
    ("%ROWCOUNT", .PERCENT_ROWCOUNT), ("%ROWTYPE", .PERCENT_ROWTYPE), ("%TYPE", .PERCENT_TYPE),
    ("..", .DOUBLE_PERIOD), (".", .PERIOD), ("%", .PERCENT), ("&", .AMPERSAND), ("(", .LEFT_PAREN),
    (")", .RIGHT_PAREN), ("**", .DOUBLE_ASTERISK), ("*", .ASTERISK), ("+", .PLUS_SIGN),
    ("-", .MINUS_SIGN), (",", .COMMA), ("/", .SOLIDUS), ("@", .AT_SIGN), (":=", .ASSIGN_OP),
    ("^", .CARRET_OPERATOR_PART), ("~", .TILDE_OPERATOR_PART), ("!", .EXCLAMATION_OPERATOR_PART),
    (">", .GREATER_THAN_OP), ("<", .LESS_THAN_OP), (":", .COLON), (";", .SEMICOLON), ("|", .BAR),
    ("=", .EQUALS_OP), ("[", .LEFT_BRACKET), ("]", .RIGHT_BRACKET), ("_", .INTRODUCER), ("@!", .ZV)]

def hidden : Terminal → Bool
  | SINGLE_LINE_COMMENT | MULTI_LINE_COMMENT | ZV => true
  | _ => false

end Terminal
end BlockScript
