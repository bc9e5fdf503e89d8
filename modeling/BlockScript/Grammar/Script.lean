import BlockScript.Grammar.Phrase

/-!
Scripts: the units a source is made of and the commands of the console it is fed to.
-/

namespace BlockScript.Grammar.Script
open Phrase Terminal Nonterminal

def rules (others : Nonterminal → Phrase) : Nonterminal → Phrase
  | .sqlScript => star ((unitStatement + sqlPlusCommand)*opt SEMICOLON)*EOF
  | .unitStatement =>
    transactionControlStatements + alterFunction + alterPackage + alterProcedure + alterSequence +
    alterTrigger + alterType + alterTable + alterIndex + alterUser + createFunctionBody +
    createProcedureBody + createPackage + createPackageBody + createIndex + createTable +
    createTablespace + createView + createMaterializedView + createMaterializedViewLog +
    createUser + createSequence + createTrigger + createType + createSynonym + dropFunction +
    dropPackage + dropProcedure + dropSequence + dropTrigger + dropType +
    dataManipulationLanguageStatements + dropTable + dropIndex + commentOnColumn + commentOnTable +
    anonymousBlock + grantStatement
  | .sqlPlusCommand =>
    SOLIDUS + EXIT + SHOW*anyOf [ERR, ERRORS] + START_CMD + wheneverCommand + setCommand
  | .wheneverCommand =>
    WHENEVER*anyOf [SQLERROR, OSERROR]*(EXIT*anyOf [SUCCESS, FAILURE, WARNING]*anyOf [COMMIT,
    ROLLBACK] + CONTINUE*anyOf [COMMIT, ROLLBACK, NONE])
  | .setCommand => SET*regularId*(CHAR_STRING + ON + OFF + numeric + regularId)
  | kind => others kind

end BlockScript.Grammar.Script
