import BlockScript.Value

namespace BlockScript

inductive Failure where
  /-- An operand or argument of a type that the operation is not made for, or too many or too few
  of them. -/
  | unsuited
  | noMember
  | outOfRange
  | noKey
  | badValue
  | unknownName
  /-- A name of the routine that has no value yet. -/
  | unsetLocal
  | divisionByZero
  | tooLarge
  | unmetExpectation
  /-- Rows of a mock that are not written in data notation. -/
  | malformedData
  | badPattern
  | tooDeep
  | unknownPackage (name : String)
  | noConnectionString
  | noMock
  | notLocal (name : String)
  | nothingToRaise
  | raised (e : Exception)
deriving DecidableEq, Repr, Inhabited

namespace Failure

def message? : Failure → Option String
  | unknownPackage name => some name
  | noConnectionString =>
    some ("\nThe connection string is None.\n" ++
      "Please call PLCURSOR.SETUP(\"user/pass@database\") first\n")
  | noMock => some "unable to find valid sql mock"
  | notLocal name => some ("expected variable " ++ name ++ " to be defined in the locals")
  | nothingToRaise => some "No active exception to reraise"
  | _ => none

end Failure

inductive Stop where
  | failed (cause : Failure)
  | exhausted
deriving DecidableEq, Repr, Inhabited

end BlockScript
