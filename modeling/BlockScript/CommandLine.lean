import BlockScript.Build
import BlockScript.Target.Printer

/-!
The command line: the first argument names the file of a script, the second the file that its
program is written to.
-/

namespace BlockScript.CommandLine

inductive FileFault where
  | missing
  | directory
deriving DecidableEq, Repr

structure Files (m : Type → Type) where
  read : String → m (Except FileFault String)
  /-- Makes a file empty. -/
  create : String → m (Except FileFault Unit)
  write : String → List String → m Unit

inductive Problem where
  | tooFewArguments
  | file (fault : FileFault)
  | defect (reason : Defect)

/-- Builds a program file from a script file. -/
def run [Monad m] (files : Files m) : List String → m (Except Problem Unit)
  | input :: output :: _ => do
    match ← files.read input with
    | .error fault => return .error (.file fault)
    | .ok text =>
      match Build.program text with
      | .error (.unprintable .illFormed) =>
        match ← files.create output with
        | .error fault => return .error (.file fault)
        | .ok () => return .error (.defect (.unprintable .illFormed))
      | .error defect => return .error (.defect defect)
      | .ok program =>
        match ← files.create output with
        | .error fault => return .error (.file fault)
        | .ok () =>
          files.write output program.lines
          return .ok ()
  | _ => return .error .tooFewArguments

end BlockScript.CommandLine
