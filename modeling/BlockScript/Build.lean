import BlockScript.Compile
import BlockScript.Target.OfDraft

namespace BlockScript

inductive Defect where
  | script (fault : Fault)
  | reject (reason : Reject)
  | unprintable (reason : Unprintable)

namespace Build

def draft (text : String) : Except Defect Draft := do
  let script ← (Script.read text).mapError .script
  (Compile.script script).mapError .reject

def program (text : String) : Except Defect Target.Program := do
  (Target.ofDraft (← draft text)).mapError .unprintable

end Build
end BlockScript
