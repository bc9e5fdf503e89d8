import BlockScript.Compile.Basic

/-!
Statements and declarations: variables, types, cursors, routines and packages. The specification and
the body of a package become two classes, the second derived from the first.
-/

namespace BlockScript.Compile

/-- One step of building a branch from its last part to its first. -/
structure Chain where
  body : List Draft := []
  orelse : List Draft := []
  /-- The part met last. -/
  latest : Draft := .missing

def Chain.step (c : Chain) (part : Draft) : Except Reject Chain :=
  match part with
  | .elseMark => .ok { body := [], orelse := c.body, latest := part }
  | .elsifMark =>
    match c.body with
    | [] => .error .lacking
    | test :: body => .ok { body := [], orelse := [.branch test body c.orelse], latest := part }
  | _ => .ok { c with body := part :: c.body, latest := part }

/-- A branch with its alternatives, from the flat list of its parts: a test and its statements, then
for each alternative a mark, its test and its statements, and at last those without a test. -/
def branch (parts : List Draft) : Except Reject Draft := do
  let chain ← parts.reverse.foldlM Chain.step {}
  return .branch chain.latest chain.body.tail chain.orelse

def compareWith (selector : Draft) : List Draft → Except Reject (List Draft)
  | [] => .ok []
  | [.elsifMark] => .error .lacking
  | .elsifMark :: value :: rest => do
    return .elsifMark :: .binary selector (.comparison .eq) value :: (← compareWith selector rest)
  | part :: rest => do return part :: (← compareWith selector rest)

def selectedCase (parts : List Draft) : Except Reject Draft := do
  let (selector, rest) ← first parts
  let (_, rest) ← first (← compareWith selector rest)
  branch rest

def searchedCase (parts : List Draft) : Except Reject Draft := do
  branch (← first parts).2

def withBody (loop : Draft) (body : List Draft) : Draft :=
  match loop with
  | .forLoop target range _ => .forLoop target range body
  | other => other

def loop (children : List (Tree Token)) (parts : List Draft) : Except Reject Draft := do
  let parts ←
    if hasPhrase children .labelDeclaration then dropFinal (← first parts).2 else pure parts
  if has children .WHILE then
    let (test, body) ← first parts
    return .whileLoop test body
  else if has children .FOR then
    let (loop, body) ← first parts
    return withBody loop body
  else return .whileLoop (.constant (.bool true)) parts

def countingLoop : List Draft → Except Reject Draft
  | [index, lower, upper] =>
    .ok (.forLoop (.name index) (.call (.ident "mrange") [lower, upper]) [])
  | _ => .error .miscounted

def jump (target : Draft) (children : List (Tree Token)) (parts : List Draft) :
    Except Reject Draft := do
  if hasPhrase children .condition then return .branch (← head parts) [target] []
  else return target

def body (parts : List Draft) : List Draft :=
  let handlers := parts.filter Draft.isHandler
  let rest := parts.filter (!·.isHandler)
  let rest := match rest.getLast? with
    | some (.name _) => rest.dropLast
    | _ => rest
  if handlers.isEmpty then rest else [.guard rest handlers]

def handler (parts : List Draft) : Except Reject Draft := do
  let (exception, statements) ← first parts
  return .handler exception statements

def variableOf (parts : List Draft) : Compile Draft := do
  let (name, rest) ← first parts
  modify (·.declare (← nameOf name))
  let (empty, rest) := match rest with
    | .typeMark type :: rest => (Draft.call type [], rest)
    | rest => (Draft.call (.ident "m") [], rest)
  return .assign name (rest.headD empty)

def subtypeOf (parts : List Draft) : Except Reject Draft := do
  let (name, rest) ← first parts
  match (← first rest).1 with
  | .typeMark type => return .assign name type
  | _ => throw .misplaced

/-- A table type is a constructor of tables with an element type or without; all record types are
one. -/
def typeDeclaration (children : List (Tree Token)) (parts : List Draft) : Compile Draft := do
  let (name, rest) ← first parts
  modify (·.declare (← nameOf name))
  if hasPhrase children .tableTypeDef then
    match rest with
    | .typeMark type :: _ =>
      modify (·.requireAll ["PLRECORD", "PLTABLE"])
      return .assign name (.call (.ident "PLTABLE_OF") [type])
    | _ =>
      modify (·.require "PLTABLE")
      return .assign name (.ident "PLTABLE")
  else if hasPhrase children .recordTypeDef then
    modify (·.require "PLRECORD")
    return .assign name (.ident "PLRECORD")
  else unsupported (.typeDeclaration rest)

def typeName (children : List (Tree Token)) : Compile Draft := do
  (← get).resolvePath (namesOf children .idExpression)

def declaredNames (parts : List Draft) : Except Reject (List String) := do
  let names ← parts.mapM fun
    | .assign target _ => do return [← nameOf target]
    | .function name .. => .ok [name]
    | _ => .ok []
  return names.flatten

def textConstant (value : String) : Draft := .constant (.text value)

def locals : Draft := .call (.ident "locals") []

def cursor (parameters : List String) (parts : List Draft) : Except Reject (String × Draft) := do
  let (name, rest) ← first parts
  let query := rest.foldl (fun last part => match part with
    | .query text => some text
    | _ => last) none
  let binds := rest.filterMap fun
    | .reference r => some (textConstant r.root)
    | _ => none
  let id ← nameOf name
  match query with
  | none => throw .misplaced
  | some text =>
    return (id, .assign name (.call (.member (.ident "PLCURSOR") "CURSOR")
      [textConstant text, .list binds, .list (parameters.map textConstant)]))

def execution (query : String) (references : List Reference) : Draft :=
  .call (.member (.ident "PLCURSOR") "FULL_EXECUTE")
    [textConstant query, .list (references.map (textConstant ·.root)), locals]

def openCursor (parts : List Draft) : Except Reject Draft := do
  match ← head parts with
  | .call func arguments =>
    return .call (.member (.call func []) "OPEN") [.list arguments, locals]
  | _ => throw .misplaced

def fetch (parts : List Draft) : Except Reject Draft := do
  let (cursor, targets) ← first parts
  return .call (.member cursor "FETCH") targets

def closeCursor (parts : List Draft) : Except Reject Draft := do
  return .call (.member (← head parts) "CLOSE") []

def dynamicQuery (parts : List Draft) : Except Reject Draft := do
  discard (head parts)
  return .call (.ident "execute_immediate_into") parts

def transaction (t : Tree Token) : Except Reject Draft :=
  let call (name : String) := Draft.call (.member (.ident "PLCURSOR") name) []
  if hasPhrase t.children .commitStatement then .ok (call "commit")
  else if hasPhrase t.children .rollbackStatement then .ok (call "rollback")
  else .error (.unsupported (.transaction t.text))

/-- A routine of a block or package from its parts: its name, its parameters, the type it returns
if that has a name, and its declarations and statements. -/
def routine (parts : List Draft) : Except Reject (String × Draft) := do
  let (name, rest) ← first parts
  let parameters := rest.takeWhile Draft.isParameter
  let body := rest.dropWhile Draft.isParameter
  if body.isEmpty then throw .lacking
  let body := (body.eraseP Draft.isTypeMark).map Draft.asStatement
  let id ← nameOf name
  return (id, .function id parameters body [])

def parameterNames (children : List (Tree Token)) : List String :=
  (children.filter (·.kind? == some .parameter)).flatMap fun p =>
    (namesOf p.children .parameterName).take 1

def standalone (parts : List Draft) : Except Reject (String × Draft) := do
  let (name, rest) ← first parts
  let id ← nameOf name
  let body := rest.filter fun part => !part.isParameter && !part.isTypeMark
  return (id, .function id (rest.filter Draft.isParameter) body [])

def parameter (parts : List Draft) : Except Reject Draft :=
  match parts with
  | name :: _ => .ok (.parameter name)
  | [] => .error .miscounted

def specificationName (package : String) : String := "_" ++ package ++ "_spec"

def specification (parts : List Draft) : Except Reject (Draft × List String) := do
  let (name, rest) ← first parts
  let id ← nameOf name
  let body := withoutLabel (· == id) rest
  let names ← body.mapM fun
    | .assign target _ => do return [← nameOf target]
    | _ => .ok []
  let body := if body.isEmpty then [.pass] else body
  return (.classDef (specificationName id) body [], names.flatten)

def asStatic : Draft → Draft
  | .function name parameters body decorators =>
    .function name parameters body (decorators ++ [.ident "staticmethod"])
  | other => other

def packageBody (package : String) (parts : List Draft) : Draft :=
  let body := (withoutLabel (· == package) parts).tail
  .classDef package (body.map asStatic) [.ident (specificationName package)]

def imports (present packages : List String) : List Draft :=
  (packages.filter fun p => !present.contains p).map .importAll

def alwaysImported : List String := ["PLGLOBALS", "PLHELPER", "PLCURSOR"]

end BlockScript.Compile
