import BlockScript.Compile.Reject
import BlockScript.Text.Case

/-!
Scopes: which names a piece of code may use, and what a name stands for there.
-/

namespace BlockScript

def addNew [BEq α] (names : List α) (name : α) : List α :=
  if names.contains name then names else names ++ [name]

def addAllNew [BEq α] (names more : List α) : List α := more.foldl addNew names

structure Scope where
  /-- The package whose body was entered last. -/
  package : Option String := none
  declared : List String := []
  /-- The names of the package, if they are not the same as those declared. -/
  ownMembers : Option (List String) := some []
  imports : List String := []

namespace Scope

def standard : List String :=
  ["CHR", "EXCEPTION", "INSTR", "LENGTH", "LOGIN_DENIED", "LOWER", "LPAD", "LTRIM", "MOD", "NVL",
    "OTHERS", "RAISE_APPLICATION_ERROR", "REPLACE", "RPAD", "RTRIM", "SQL", "SQLCODE", "SQLERRM",
    "SUBSTR", "SYS_CONTEXT", "TO_CHAR", "TO_NUMBER", "TRIM", "UPPER"]

def members (s : Scope) : List String := s.ownMembers.getD s.declared

def declare (s : Scope) (name : String) : Scope := { s with declared := addNew s.declared name }

def declareAll (s : Scope) (names : List String) : Scope :=
  { s with declared := addAllNew s.declared names }

def require (s : Scope) (package : String) : Scope :=
  { s with imports := addNew s.imports package }

def requireAll (s : Scope) (packages : List String) : Scope :=
  { s with imports := addAllNew s.imports packages }

def enterSpecification (s : Scope) : Scope :=
  { s with declared := s.members, ownMembers := none }

def enterBody (s : Scope) (package : String) : Scope :=
  { s.declare package with package := some package, ownMembers := none }

def routine (s : Scope) : Scope :=
  { package := s.package, ownMembers := some s.members }

def standalone (s : Scope) : Scope := { declared := s.declared }

def cursor (s : Scope) (parameters : List String) : Scope :=
  { declared := s.declared ++ parameters }

def resolve (s : Scope) (name : String) : Draft :=
  if s.declared.contains name || s.package == some name then .ident name
  else if s.members.contains name then
    .member (.name (s.package.elim .missing .text)) name
  else if standard.contains name then .member (.ident "PLGLOBALS") name
  else .ident name

def resolvePath (s : Scope) : List String → Except Reject Draft
  | [] => .error .lacking
  | root :: path => .ok (path.foldl Draft.member (s.resolve root))

def refer (s : Scope) (path : List String) : Except Reject Draft :=
  s.resolvePath (path.map Case.toUpper)

def rootOf : Draft → Except Reject String
  | .text name => .ok name
  | .name id => rootOf id
  | .attribute value _ => rootOf value
  | .call func _ => rootOf func
  | part => .error (.unsupported (.importOf part))

def use (s : Scope) (reference : Draft) : Except Reject Scope := do
  let root ← rootOf reference
  return if s.package == some root || s.declared.contains root then s else s.require root

end Scope
end BlockScript
