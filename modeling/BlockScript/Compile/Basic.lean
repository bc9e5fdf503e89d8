import BlockScript.Embedded
import BlockScript.Scope

namespace BlockScript

abbrev Compile := StateT Scope (Except Reject)

namespace Compile

def reject (reason : Reject) : Compile α := throw reason

def unsupported (what : Unsupported) : Compile α := throw (.unsupported what)

def first : List Draft → Except Reject (Draft × List Draft)
  | [] => .error .lacking
  | part :: rest => .ok (part, rest)

def head (parts : List Draft) : Except Reject Draft := do return (← first parts).1

def dropFinal : List Draft → Except Reject (List Draft)
  | [] => .error .lacking
  | parts => .ok parts.dropLast

def nameOf (part : Draft) : Except Reject String :=
  match part.id? with
  | some id => .ok id
  | none => .error .misplaced

def has (children : List (Tree Token)) (kind : Terminal) : Bool :=
  children.any fun
    | .leaf t => t.kind == kind
    | .node .. => false

def hasPhrase (children : List (Tree Token)) (kind : Nonterminal) : Bool :=
  children.any (·.kind? == some kind)

def count (children : List (Tree Token)) (kind : Terminal) : Nat :=
  children.countP fun
    | .leaf t => t.kind == kind
    | .node .. => false

def namesOf (children : List (Tree Token)) (kind : Nonterminal) : List String :=
  (children.filter (·.kind? == some kind)).map Tree.capitals

def within (inner : Scope) (body : Compile α) : Compile (α × Scope) := do
  match body.run inner with
  | .ok result => return result
  | .error reason => throw reason

def withoutLabel (isLabel : String → Bool) (parts : List Draft) : List Draft :=
  match parts.getLast? with
  | some (.name (.text id)) => if isLabel id then parts.dropLast else parts
  | _ => parts

end Compile
end BlockScript
