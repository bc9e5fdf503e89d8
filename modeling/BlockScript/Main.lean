import BlockScript.CommandLine

namespace BlockScript.CommandLine

def FileFault.ofError : IO.Error → FileFault
  | .inappropriateType .. => .directory
  | _ => .missing

def systemFiles : Files IO where
  read path := do
    try return .ok (← IO.FS.readFile path) catch e => return .error (.ofError e)
  create path := do
    try
      IO.FS.writeFile path ""
      return .ok ()
    catch e => return .error (.ofError e)
  write path lines := IO.FS.writeFile path (String.join (lines.map (· ++ "\n")))

def Problem.message : Problem → String
  | .tooFewArguments => "a script file and a program file are needed"
  | .file .missing => "no such file"
  | .file .directory => "this is a directory"
  | .defect (.script .encoding) => "the script is not in the seven-bit alphabet"
  | .defect (.script (.lexical p)) => s!"line {p.line}:{p.column} no token begins here"
  | .defect (.script (.syntactic p)) => s!"line {p.line}:{p.column} unexpected token"
  | .defect (.reject (.unsupported what)) => what.message
  | .defect (.reject _) => "the script has no program"
  | .defect (.unprintable _) => "the program cannot be written"

end BlockScript.CommandLine

open BlockScript.CommandLine in
def main (args : List String) : IO UInt32 := do
  match ← run systemFiles args with
  | .ok () => return 0
  | .error problem =>
    IO.eprintln problem.message
    return 1
