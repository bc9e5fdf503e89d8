import BlockScript.Draft

namespace BlockScript

inductive Unsupported where
  | transaction (text : String)
  | dynamicQuery (text : String)
  | concatenation (text : String)
  | connective (text : String)
  | stringFunction (text : String)
  | typeDeclaration (parts : List Draft)
  | element (part : Draft)
  | importOf (part : Draft)

namespace Unsupported

def message : Unsupported → String
  | .transaction text => "unimplemented Transaction_control_statements " ++ text
  | .dynamicQuery text => "unimplemented Execute_immediate " ++ text
  | .concatenation text => "unimplemented Concatenation: " ++ text
  | .connective text => "unsupported operator: " ++ text
  | .stringFunction text => "unimplemented String_function " ++ text
  | .typeDeclaration parts =>
    "unsupported Type_declaration: deque([" ++
      ", ".intercalate (parts.map Draft.description) ++ "])"
  | .element part => "unsupported General_element " ++ part.description
  | .importOf part => "unsupported object to import " ++ part.description

end Unsupported

inductive Reject where
  /-- A part that is needed is not there. -/
  | lacking
  /-- A part is there that is not of the needed kind. -/
  | misplaced
  /-- There are more or fewer parts than have a place. -/
  | miscounted
  /-- A literal is not a number. -/
  | unreadable
  /-- A comparison has no counterpart. -/
  | unknownOperator
  | unsupported (what : Unsupported)

end BlockScript
