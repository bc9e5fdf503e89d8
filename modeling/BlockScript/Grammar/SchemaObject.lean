import BlockScript.Grammar.Phrase

/-!
Schema objects other than tables: sequences, indexes, users, privileges, views, tablespaces and
their files.
-/

namespace BlockScript.Grammar.SchemaObject
open Phrase Terminal Nonterminal

def rules (others : Nonterminal → Phrase) : Nonterminal → Phrase
  | .dropSequence => DROP*SEQUENCE*sequenceName*SEMICOLON
  | .alterSequence => ALTER*SEQUENCE*sequenceName*plus sequenceSpec*SEMICOLON
  | .createSequence =>
    CREATE*SEQUENCE*sequenceName*star (sequenceStartClause + sequenceSpec)*SEMICOLON
  | .sequenceSpec =>
    INCREMENT*BY*UNSIGNED_INTEGER + MAXVALUE*UNSIGNED_INTEGER + NOMAXVALUE + MINVALUE*
    UNSIGNED_INTEGER + NOMINVALUE + CYCLE + NOCYCLE + CACHE*UNSIGNED_INTEGER + NOCACHE + ORDER +
    NOORDER
  | .sequenceStartClause => START*WITH*UNSIGNED_INTEGER
  | .createIndex =>
    CREATE*opt UNIQUE*INDEX*indexName*ON*tableviewName*parenColumnList*opt (TABLESPACE*
    idExpression)*opt (COMPUTE*STATISTICS)*SEMICOLON
  | .alterIndex => ALTER*INDEX*indexName*RENAME*TO*indexName*SEMICOLON
  | .createUser =>
    CREATE*USER*userObjectName*plus (identifiedBy + identifiedOtherClause + userTablespaceClause +
    quotaClause + profileClause + passwordExpireClause + userLockClause + userEditionsClause +
    containerClause)*SEMICOLON
  | .alterUser =>
    ALTER*USER*userObjectName*plus (alterIdentifiedBy + identifiedOtherClause +
    userTablespaceClause + quotaClause + profileClause + userDefaultRoleClause +
    passwordExpireClause + userLockClause + alterUserEditionsClause + containerClause +
    containerDataClause)*SEMICOLON + series userObjectName*proxyClause*SEMICOLON
  | .alterIdentifiedBy => identifiedBy*opt (REPLACE*idExpression)
  | .identifiedBy => IDENTIFIED*BY*idExpression
  | .identifiedOtherClause => IDENTIFIED*anyOf [EXTERNALLY, GLOBALLY]*opt (AS*quotedString)
  | .userTablespaceClause => anyOf [DEFAULT, TEMPORARY]*TABLESPACE*idExpression
  | .quotaClause => QUOTA*(sizeClause + UNLIMITED)*ON*idExpression
  | .profileClause => PROFILE*idExpression
  | .roleClause => series roleName + ALL*star (EXCEPT*series roleName)
  | .userDefaultRoleClause => DEFAULT*ROLE*(NONE + roleClause)
  | .passwordExpireClause => PASSWORD*EXPIRE
  | .userLockClause => ACCOUNT*anyOf [LOCK, UNLOCK]
  | .userEditionsClause => ENABLE*EDITIONS
  | .alterUserEditionsClause => userEditionsClause*opt (FOR*series regularId)*opt FORCE
  | .proxyClause =>
    REVOKE*CONNECT*THROUGH*(ENTERPRISE*USERS + userObjectName) + GRANT*CONNECT*THROUGH*(ENTERPRISE*
    USERS + userObjectName*opt (WITH*(NO*ROLES + ROLE*roleClause))*opt (AUTHENTICATION*REQUIRED)*
    opt (AUTHENTICATED*USING*(PASSWORD + CERTIFICATE + DISTINGUISHED*NAME)))
  | .containerNames => parens (series idExpression)
  | .setContainerData => SET*CONTAINER_DATA*EQUALS_OP*(ALL + DEFAULT + containerNames)
  | .addRemContainerData => anyOf [ADD, REMOVE]*CONTAINER_DATA*EQUALS_OP*containerNames
  | .containerDataClause => setContainerData + addRemContainerData*opt (FOR*containerTableviewName)
  | .dropIndex => DROP*INDEX*indexName*SEMICOLON
  | .grantStatement =>
    GRANT*series (roleName + systemPrivilege + objectPrivilege*opt parenColumnList)*opt (ON*
    grantObjectName)*TO*plus (opt COMMA*granteeName + PUBLIC)*opt (WITH*anyOf [ADMIN, DELEGATE]*
    OPTION)*opt (WITH*HIERARCHY*OPTION)*opt (WITH*GRANT*OPTION)*opt containerClause*SEMICOLON
  | .containerClause => CONTAINER*EQUALS_OP*anyOf [CURRENT, ALL]
  | .createView =>
    CREATE*opt (OR*REPLACE)*opt (opt OR*FORCE)*opt EDITIONING*VIEW*tableviewName*opt viewOptions*AS*
    subquery*opt subqueryRestrictionClause
  | .viewOptions => viewAliasConstraint + objectViewClause
  | .viewAliasConstraint => parens (series (tableAlias*star inlineConstraint + outOfLineConstraint))
  | .objectViewClause =>
    OF*typeName*(WITH*OBJECT*anyOf [IDENTIFIER, ID, OID]*(DEFAULT + parens (series REGULAR_ID)) +
    UNDER*tableviewName)*star (parens (series (outOfLineConstraint + REGULAR_ID*inlineConstraint)))
  | .inlineConstraint =>
    opt (CONSTRAINT*constraintName)*(opt NOT*NULL + UNIQUE + PRIMARY*KEY + referencesClause +
    checkConstraint)*opt constraintState
  | .inlineRefConstraint =>
    SCOPE*IS*tableviewName + WITH*ROWID + opt (CONSTRAINT*constraintName)*referencesClause*
    opt constraintState
  | .outOfLineRefConstraint =>
    SCOPE*FOR*parens regularId*IS*tableviewName + REF*parens regularId*WITH*ROWID + opt (CONSTRAINT*
    constraintName)*FOREIGN*KEY*parens (series regularId)*referencesClause*opt constraintState
  | .outOfLineConstraint =>
    (opt (CONSTRAINT*constraintName)*(UNIQUE*parens (series columnName) + PRIMARY*KEY*
    parens (series columnName) + foreignKeyClause + CHECK*parens expression))*opt constraintState
  | .constraintState =>
    plus (opt NOT*DEFERRABLE + INITIALLY*anyOf [IMMEDIATE, DEFERRED] + anyOf [RELY, NORELY] +
    anyOf [ENABLE, DISABLE] + anyOf [VALIDATE, NOVALIDATE])
  | .createTablespace =>
    CREATE*opt (anyOf [BIGFILE, SMALLFILE])*(permanentTablespaceClause + temporaryTablespaceClause +
    undoTablespaceClause)*SEMICOLON
  | .permanentTablespaceClause =>
    TABLESPACE*idExpression*opt datafileSpecification*star (MINIMUM*EXTENT*sizeClause + BLOCKSIZE*
    sizeClause + loggingClause + FORCE*LOGGING + anyOf [ONLINE, OFFLINE] + ENCRYPTION*
    tablespaceEncryptionSpec + DEFAULT + extentManagementClause + segmentManagementClause +
    flashbackModeClause)
  | .tablespaceEncryptionSpec => USING*CHAR_STRING
  | .loggingClause => anyOf [LOGGING, NOLOGGING, FILESYSTEM_LIKE_LOGGING]
  | .extentManagementClause =>
    EXTENT*MANAGEMENT*LOCAL*opt (AUTOALLOCATE + UNIFORM*opt (SIZE*sizeClause))
  | .segmentManagementClause => SEGMENT*SPACE_KEYWORD*MANAGEMENT*anyOf [AUTO, MANUAL]
  | .flashbackModeClause => FLASHBACK*anyOf [ON, OFF]
  | .temporaryTablespaceClause =>
    TEMPORARY*TABLESPACE*idExpression*opt tempfileSpecification*opt tablespaceGroupClause*
    opt extentManagementClause
  | .tablespaceGroupClause => TABLESPACE*GROUP*anyOf [REGULAR_ID, CHAR_STRING]
  | .undoTablespaceClause =>
    UNDO*TABLESPACE*idExpression*opt datafileSpecification*opt extentManagementClause*
    opt tablespaceRetentionClause
  | .tablespaceRetentionClause => RETENTION*anyOf [GUARANTEE, NOGUARANTEE]
  | .datafileSpecification => DATAFILE*(opt COMMA*datafileTempfileSpec)
  | .tempfileSpecification => TEMPFILE*(opt COMMA*datafileTempfileSpec)
  | .datafileTempfileSpec => opt CHAR_STRING*opt (SIZE*sizeClause)*opt REUSE*opt autoextendClause
  | .redoLogFileSpec =>
    DATAFILE*opt (CHAR_STRING + parens (series CHAR_STRING))*opt (SIZE*sizeClause)*opt (BLOCKSIZE*
    sizeClause)*opt REUSE
  | .autoextendClause => AUTOEXTEND*(OFF + ON*opt (NEXT*sizeClause)*opt maxsizeClause)
  | .maxsizeClause => MAXSIZE*(UNLIMITED + sizeClause)
  | .buildClause => BUILD*anyOf [IMMEDIATE, DEFERRED]
  | .parallelClause => NOPARALLEL + PARALLEL*opt UNSIGNED_INTEGER
  | .createMaterializedViewLog =>
    CREATE*MATERIALIZED*VIEW*LOG*ON*tableviewName*opt (plus (physicalAttributesClause + TABLESPACE*
    idExpression + loggingClause + anyOf [CACHE, NOCACHE]))*opt parallelClause*star (WITH*
    star (opt COMMA*(OBJECT*ID + PRIMARY*KEY + ROWID + SEQUENCE + COMMIT*SCN))*
    opt (parens (series regularId)*opt newValuesClause)*opt mvLogPurgeClause)
  | .newValuesClause => anyOf [INCLUDING, EXCLUDING]*NEW*VALUES
  | .mvLogPurgeClause => PURGE*(IMMEDIATE*opt (anyOf [SYNCHRONOUS, ASYNCHRONOUS]))
  | .createMaterializedView =>
    CREATE*MATERIALIZED*VIEW*tableviewName*opt (OF*typeName)*(ON*PREBUILT*TABLE*opt (anyOf [WITH,
    WITHOUT]*REDUCED*PRECISION) + opt physicalProperties*opt (anyOf [CACHE, NOCACHE])*
    opt parallelClause*opt buildClause)*opt (USING*INDEX*star (plus (physicalAttributesClause +
    TABLESPACE*idExpression)) + USING*NO*INDEX)*opt createMvRefresh*opt (FOR*UPDATE)*
    opt (anyOf [DISABLE, ENABLE]*QUERY*REWRITE)*AS*subquery*SEMICOLON
  | .createMvRefresh =>
    NEVER*REFRESH + REFRESH*plus (anyOf [FAST, COMPLETE, FORCE] + ON*anyOf [DEMAND, COMMIT] +
    (START*WITH + NEXT) + WITH*(PRIMARY*KEY + ROWID) + USING*(DEFAULT*opt (anyOf [MASTER, LOCAL])*
    ROLLBACK*SEGMENT + opt (anyOf [MASTER, LOCAL])*ROLLBACK*SEGMENT*REGULAR_ID) + USING*
    anyOf [ENFORCED, TRUSTED]*CONSTRAINTS)
  | .createTable =>
    CREATE*opt (GLOBAL*TEMPORARY)*TABLE*tableviewName*(relationalTable + objectTable +
    xmltypeTable)*opt (AS*subquery)*SEMICOLON
  | .xmltypeTable =>
    OF*XMLTYPE*opt (parens objectProperties)*opt (XMLTYPE*xmltypeStorage)*opt xmlschemaSpec*
    opt xmltypeVirtualColumns*opt (ON*COMMIT*anyOf [DELETE, PRESERVE]*ROWS)*opt oidClause*
    opt oidIndexClause*opt physicalProperties*opt columnProperties*opt tablePartitioningClauses*
    opt (anyOf [CACHE, NOCACHE])*opt (RESULT_CACHE*parens (MODE*anyOf [DEFAULT, FORCE]))*
    opt parallelClause*opt (anyOf [ROWDEPENDENCIES, NOROWDEPENDENCIES])*
    opt (plus enableDisableClause)*opt rowMovementClause*opt flashbackArchiveClause
  | .xmltypeVirtualColumns => VIRTUAL*COLUMNS*parens (series (columnName*AS*parens expression))
  | .xmltypeColumnProperties => XMLTYPE*opt COLUMN*columnName*opt xmltypeStorage*opt xmlschemaSpec
  | .xmltypeStorage =>
    STORE*AS*(OBJECT*RELATIONAL + opt (anyOf [SECUREFILE, BASICFILE])*(CLOB + BINARY*XML)*
    opt (lobSegname*opt (parens lobParameters) + parens lobParameters)) + STORE*VARRAYS*AS*
    anyOf [LOBS, TABLES]
  | .xmlschemaSpec =>
    opt (XMLSCHEMA*DELIMITED_ID)*ELEMENT*DELIMITED_ID*opt (allowOrDisallow*NONSCHEMA)*
    opt (allowOrDisallow*ANYSCHEMA)
  | .objectTable =>
    OF*typeName*opt objectTableSubstitution*opt (parens (series objectProperties))*opt (ON*COMMIT*
    anyOf [DELETE, PRESERVE]*ROWS)*opt oidClause*opt oidIndexClause*opt physicalProperties*
    opt columnProperties*opt tablePartitioningClauses*opt (anyOf [CACHE, NOCACHE])*
    opt (RESULT_CACHE*parens (MODE*anyOf [DEFAULT, FORCE]))*opt parallelClause*
    opt (anyOf [ROWDEPENDENCIES, NOROWDEPENDENCIES])*opt (plus enableDisableClause)*
    opt rowMovementClause*opt flashbackArchiveClause
  | .oidIndexClause =>
    OIDINDEX*opt indexName*parens (plus (physicalAttributesClause + TABLESPACE*tablespace))
  | .oidClause => OBJECT*IDENTIFIER*IS*(SYSTEM*GENERATED + PRIMARY*KEY)
  | .objectProperties =>
    (columnName + attributeName)*opt (DEFAULT*expression)*opt (series inlineConstraint +
    inlineRefConstraint) + outOfLineConstraint + outOfLineRefConstraint + supplementalLoggingProps
  | .objectTableSubstitution => opt NOT*SUBSTITUTABLE*AT*ALL*LEVELS
  | .relationalTable =>
    opt (parens relationalProperties)*opt (ON*COMMIT*anyOf [DELETE, PRESERVE]*ROWS)*
    opt physicalProperties*opt columnProperties*opt tablePartitioningClauses*opt (anyOf [CACHE,
    NOCACHE])*opt (RESULT_CACHE*parens (MODE*anyOf [DEFAULT, FORCE]))*opt parallelClause*
    opt (anyOf [ROWDEPENDENCIES, NOROWDEPENDENCIES])*opt (plus enableDisableClause)*
    opt rowMovementClause*opt flashbackArchiveClause
  | .relationalProperties =>
    series (columnDefinition + virtualColumnDefinition + outOfLineConstraint +
    outOfLineRefConstraint + supplementalLoggingProps)
  | .tablePartitioningClauses => tableRangePartitionByClause
  | .tableRangePartitionByClause =>
    PARTITION*BY*RANGE*parenColumnList*opt (INTERVAL*parens expression*opt (STORE*IN*
    parens (series REGULAR_ID)))*parens (series (PARTITION*partitionName*VALUES*LESS*THAN*
    parens (plus (opt COMMA*CHAR_STRING + opt COMMA*stringFunction + opt COMMA*numeric + opt COMMA*
    MAXVALUE))*opt (TABLESPACE*idExpression)*opt (ON*COMMIT*anyOf [DELETE, PRESERVE]*ROWS)*
    opt deferredSegmentCreation*opt physicalAttributesClause))
  | .datatypeNullEnable =>
    columnName*datatype*opt SORT*opt (DEFAULT*expression)*opt (ENCRYPT*opt (USING*CHAR_STRING)*
    opt (IDENTIFIED*BY*REGULAR_ID)*opt CHAR_STRING*opt (opt NO*SALT))*opt (NOT*NULL)*
    opt (anyOf [ENABLE, DISABLE])
  | .sizeClause => UNSIGNED_INTEGER*opt REGULAR_ID
  | .tableCompression =>
    COMPRESS*opt (BASIC + FOR*(OLTP + anyOf [QUERY, ARCHIVE]*opt (anyOf [LOW, HIGH]))) + NOCOMPRESS
  | .physicalAttributesClause =>
    plus (PCTFREE*UNSIGNED_INTEGER + PCTUSED*UNSIGNED_INTEGER + INITRANS*UNSIGNED_INTEGER +
    storageClause)
  | .storageClause =>
    STORAGE*parens (plus (INITIAL*sizeClause + NEXT*sizeClause + MINEXTENTS*anyOf [UNSIGNED_INTEGER,
    UNLIMITED] + PCTINCREASE*UNSIGNED_INTEGER + FREELISTS*UNSIGNED_INTEGER + FREELIST*GROUPS*
    UNSIGNED_INTEGER + OPTIMAL*(sizeClause + NULL) + BUFFER_POOL*anyOf [KEEP, RECYCLE, DEFAULT] +
    FLASH_CACHE*anyOf [KEEP, NONE, DEFAULT] + ENCRYPT))
  | .deferredSegmentCreation => SEGMENT*CREATION*anyOf [IMMEDIATE, DEFERRED]
  | .segmentAttributesClause =>
    plus (physicalAttributesClause + TABLESPACE*idExpression + loggingClause)
  | .physicalProperties => opt deferredSegmentCreation*segmentAttributesClause*opt tableCompression
  | .rowMovementClause => opt (anyOf [ENABLE, DISABLE])*ROW*MOVEMENT
  | .flashbackArchiveClause => FLASHBACK*ARCHIVE*REGULAR_ID + NO*FLASHBACK*ARCHIVE
  | .logGrp => UNSIGNED_INTEGER
  | .supplementalTableLogging =>
    ADD*star (opt COMMA*SUPPLEMENTAL*LOG*(supplementalLogGrpClause + supplementalIdKeyClause)) +
    DROP*star (opt COMMA*SUPPLEMENTAL*LOG*(supplementalIdKeyClause + GROUP*logGrp))
  | .supplementalLogGrpClause => GROUP*logGrp*parens (series (regularId*opt (NO*LOG)))*opt ALWAYS
  | .supplementalIdKeyClause =>
    DATA*parens (series (ALL + PRIMARY*KEY + UNIQUE + FOREIGN*KEY))*COLUMNS
  | .allocateExtentClause =>
    ALLOCATE*EXTENT*opt (parens (plus (SIZE*sizeClause + DATAFILE*CHAR_STRING + INSTANCE*
    UNSIGNED_INTEGER)))
  | .deallocateUnusedClause => DEALLOCATE*UNUSED*opt (KEEP*sizeClause)
  | .shrinkClause => SHRINK*SPACE_KEYWORD*opt COMPACT*opt CASCADE
  | .recordsPerBlockClause => opt (anyOf [MINIMIZE, NOMINIMIZE])*RECORDS_PER_BLOCK
  | .upgradeTableClause => UPGRADE*(opt NOT*INCLUDING*DATA)*columnProperties
  | .dropTable => DROP*TABLE*tableviewName*SEMICOLON
  | .commentOnColumn => COMMENT*ON*COLUMN*tableviewName*PERIOD*columnName*IS*quotedString
  | .enableOrDisable => anyOf [ENABLE, DISABLE]
  | .allowOrDisallow => anyOf [ALLOW, DISALLOW]
  | .createSynonym =>
    CREATE*opt (OR*REPLACE)*PUBLIC*SYNONYM*synonymName*FOR*opt (schemaName*PERIOD)*schemaObjectName*
    opt (AT_SIGN*linkName) + CREATE*opt (OR*REPLACE)*SYNONYM*opt (schemaName*PERIOD)*synonymName*
    FOR*opt (schemaName*PERIOD)*schemaObjectName*opt (AT_SIGN*linkName)
  | .commentOnTable => COMMENT*ON*TABLE*tableviewName*IS*quotedString
  | .alterTable =>
    ALTER*TABLE*tableviewName*(empty + alterTableProperties + columnClauses + constraintClauses +
    moveTableClause)*opt (plus (enableDisableClause + enableOrDisable*(TABLE*LOCK + ALL*TRIGGERS)))*
    SEMICOLON
  | .alterTableProperties =>
    alterTableProperties1 + RENAME*TO*tableviewName + shrinkClause + READ*ONLY + READ*WRITE + REKEY*
    CHAR_STRING
  | .alterTableProperties1 =>
    plus (physicalAttributesClause + loggingClause + tableCompression + supplementalTableLogging +
    allocateExtentClause + deallocateUnusedClause + anyOf [CACHE, NOCACHE] + RESULT_CACHE*
    parens (MODE*anyOf [DEFAULT, FORCE]) + upgradeTableClause + recordsPerBlockClause +
    parallelClause + rowMovementClause + flashbackArchiveClause)*opt alterIotClauses
  | .alterIotClauses =>
    indexOrgTableClause + alterOverflowClause + alterMappingTableClause + COALESCE
  | .alterMappingTableClause => MAPPING*TABLE*(allocateExtentClause + deallocateUnusedClause)
  | .alterOverflowClause =>
    addOverflowClause + OVERFLOW*plus (segmentAttributesClause + allocateExtentClause +
    shrinkClause + deallocateUnusedClause)
  | .addOverflowClause =>
    ADD*OVERFLOW*opt segmentAttributesClause*opt (parens (series (PARTITION*
    opt segmentAttributesClause)))
  | .enableDisableClause =>
    anyOf [ENABLE, DISABLE]*opt (anyOf [VALIDATE, NOVALIDATE])*(UNIQUE*parens (series columnName) +
    PRIMARY*KEY + CONSTRAINT*constraintName)*opt usingIndexClause*opt exceptionsClause*opt CASCADE*
    opt (anyOf [KEEP, DROP]*INDEX)
  | .usingIndexClause => USING*INDEX*(indexName + parens createIndex)
  | .exceptionsClause => EXCEPTIONS*INTO*tableviewName
  | .moveTableClause =>
    MOVE*opt ONLINE*opt segmentAttributesClause*opt tableCompression*opt indexOrgTableClause*
    opt (plus (lobStorageClause + varrayColProperties))*opt parallelClause
  | .indexOrgTableClause =>
    (mappingTableClause + PCTTHRESHOLD*UNSIGNED_INTEGER + keyCompression)*opt indexOrgOverflowClause
  | .mappingTableClause => MAPPING*TABLE + NOMAPPING
  | .keyCompression => NOCOMPRESS + COMPRESS*UNSIGNED_INTEGER
  | .indexOrgOverflowClause => opt (INCLUDING*columnName)*OVERFLOW*opt segmentAttributesClause
  | .columnClauses =>
    addModifyDropColumnClauses + renameColumnClause + modifyCollectionRetrieval +
    modifyLobStorageClause
  | .modifyCollectionRetrieval =>
    MODIFY*NESTED*TABLE*collectionItem*RETURN*AS*anyOf [LOCATOR, VALUE]
  | .collectionItem => tableviewName
  | .renameColumnClause => RENAME*COLUMN*oldColumnName*TO*newColumnName
  | .oldColumnName | .newColumnName => columnName
  | .addModifyDropColumnClauses => plus (addColumnClause + modifyColumnClauses + dropColumnClause)
  | .dropColumnClause =>
    SET*UNUSED*(COLUMN*columnName + parens (series columnName))*star (CASCADE*CONSTRAINTS +
    INVALIDATE) + DROP*(COLUMN*columnName + parens (series columnName))*star (CASCADE*CONSTRAINTS +
    INVALIDATE)*opt (CHECKPOINT*UNSIGNED_INTEGER) + DROP*(UNUSED*COLUMNS + COLUMNS*CONTINUE)*
    (CHECKPOINT*UNSIGNED_INTEGER)
  | .modifyColumnClauses => MODIFY*(parens (series modifyColProperties) + modifyColSubstitutable)
  | .modifyColProperties =>
    columnName*opt datatype*opt (DEFAULT*expression)*opt (ENCRYPT*encryptionSpec + DECRYPT)*
    star inlineConstraint*opt lobStorageClause
  | .modifyColSubstitutable => COLUMN*columnName*opt NOT*SUBSTITUTABLE*AT*ALL*LEVELS*opt FORCE
  | .addColumnClause =>
    ADD*parens (plus (opt COMMA*columnDefinition + opt COMMA*virtualColumnDefinition))*
    opt columnProperties
  | .alterVarrayColProperties => MODIFY*VARRAY*varrayItem*parens modifyLobParameters
  | .varrayColProperties =>
    VARRAY*varrayItem*(opt substitutableColumnClause*varrayStorageClause +
    substitutableColumnClause)
  | .varrayStorageClause =>
    STORE*AS*opt (anyOf [SECUREFILE, BASICFILE])*LOB*(opt lobSegname*parens lobStorageParameters +
    lobSegname)
  | .lobSegname | .lobItem | .tablespace | .nestedItem | .partitionName | .columnOrAttribute =>
    regularId
  | .lobStorageParameters => TABLESPACE*tablespace + lobParameters*opt storageClause + storageClause
  | .lobStorageClause =>
    LOB*(parens (series lobItem)*STORE*AS*plus (anyOf [SECUREFILE, BASICFILE] +
    parens lobStorageParameters) + parens lobItem*STORE*AS*plus (anyOf [SECUREFILE, BASICFILE] +
    lobSegname + parens lobStorageParameters))
  | .modifyLobStorageClause => MODIFY*LOB*parens lobItem*parens modifyLobParameters
  | .modifyLobParameters =>
    plus (storageClause + anyOf [PCTVERSION, FREEPOOLS]*UNSIGNED_INTEGER + REBUILD*FREEPOOLS +
    lobRetentionClause + lobDeduplicateClause + lobCompressionClause + ENCRYPT*encryptionSpec +
    DECRYPT + CACHE + (CACHE + NOCACHE + CACHE*READS)*opt loggingClause + allocateExtentClause +
    shrinkClause + deallocateUnusedClause)
  | .lobParameters =>
    plus (anyOf [ENABLE, DISABLE]*STORAGE*IN*ROW + CHUNK*UNSIGNED_INTEGER + PCTVERSION*
    UNSIGNED_INTEGER + FREEPOOLS*UNSIGNED_INTEGER + lobRetentionClause + lobDeduplicateClause +
    lobCompressionClause + ENCRYPT*encryptionSpec + DECRYPT + (CACHE + NOCACHE + CACHE*READS)*
    opt loggingClause)
  | .lobDeduplicateClause => anyOf [DEDUPLICATE, KEEP_DUPLICATES]
  | .lobCompressionClause => NOCOMPRESS + COMPRESS*opt (anyOf [HIGH, MEDIUM, LOW])
  | .lobRetentionClause => RETENTION*opt (MAX + MIN*UNSIGNED_INTEGER + AUTO + NONE)
  | .encryptionSpec =>
    opt (USING*CHAR_STRING)*opt (IDENTIFIED*BY*REGULAR_ID)*opt CHAR_STRING*opt (opt NO*SALT)
  | .varrayItem => opt (idExpression*PERIOD)*opt (idExpression*PERIOD)*idExpression
  | .columnProperties =>
    objectTypeColProperties + nestedTableColProperties + (varrayColProperties + lobStorageClause) +
    xmltypeColumnProperties
  | .columnDefinition =>
    columnName*(datatype + typeName)*opt SORT*opt (DEFAULT*expression)*opt (ENCRYPT*opt (USING*
    CHAR_STRING)*opt (IDENTIFIED*BY*regularId)*opt CHAR_STRING*opt (opt NO*SALT))*
    (star inlineConstraint + inlineRefConstraint)
  | .virtualColumnDefinition =>
    columnName*opt datatype*opt (GENERATED*ALWAYS)*AS*parens expression*opt VIRTUAL*
    star inlineConstraint
  | .outOfLinePartStorage => PARTITION*partitionName
  | .nestedTableColProperties =>
    NESTED*TABLE*(nestedItem + COLUMN_VALUE)*opt substitutableColumnClause*opt (anyOf [LOCAL,
    GLOBAL])*STORE*AS*tableviewName*opt (parens (plus (parens objectProperties +
    physicalProperties + columnProperties)))*opt (RETURN*opt AS*anyOf [LOCATOR, VALUE])
  | .substitutableColumnClause =>
    opt ELEMENT*IS*OF*opt TYPE*parens typeName + opt NOT*SUBSTITUTABLE*AT*ALL*LEVELS
  | .supplementalLoggingProps =>
    SUPPLEMENTAL*LOG*(supplementalLogGrpClause + supplementalIdKeyClause)
  | .objectTypeColProperties => COLUMN*regularId*substitutableColumnClause
  | .constraintClauses =>
    ADD*(star outOfLineConstraint + outOfLineRefConstraint) + MODIFY*(CONSTRAINT*constraintName +
    PRIMARY*KEY + UNIQUE*parens (series columnName))*constraintState*opt CASCADE + RENAME*
    CONSTRAINT*oldConstraintName*TO*newConstraintName + plus dropConstraintClause
  | .oldConstraintName | .newConstraintName => constraintName
  | .dropConstraintClause => DROP*dropPrimaryKeyOrUniqueOrGenericClause
  | .dropPrimaryKeyOrUniqueOrGenericClause =>
    (PRIMARY*KEY + UNIQUE*parens (series columnName))*opt CASCADE*opt (anyOf [KEEP, DROP]) +
    CONSTRAINT*constraintName*opt CASCADE
  | .addConstraint =>
    ADD*series (opt (CONSTRAINT*constraintName)*(primaryKeyClause + foreignKeyClause +
    uniqueKeyClause + checkConstraint))
  | .checkConstraint => CHECK*parens condition*opt DISABLE
  | .dropConstraint => DROP*CONSTRAINT*constraintName
  | .enableConstraint => ENABLE*CONSTRAINT*constraintName
  | .disableConstraint => DISABLE*CONSTRAINT*constraintName
  | .foreignKeyClause => FOREIGN*KEY*parenColumnList*referencesClause*opt onDeleteClause
  | .referencesClause => REFERENCES*tableviewName*parenColumnList
  | .onDeleteClause => ON*DELETE*(CASCADE + SET*NULL)
  | .uniqueKeyClause => UNIQUE*parenColumnList*opt usingIndexClause
  | .primaryKeyClause => PRIMARY*KEY*parenColumnList*opt usingIndexClause
  | kind => others kind

end BlockScript.Grammar.SchemaObject
