import SceneCatalog.Catalog
import SceneCatalog.Command.Running

/-
This file is the program: it performs the session of its arguments.
-/

namespace SceneCatalog

def FileError.ofSystem : IO.Error → FileError
  | .noFileOrDirectory .. => notFound
  | .inappropriateType _ 20 _ => notDirectory
  | .inappropriateType _ 21 _ => isDirectory
  | error => other (toString error)

def attempt {Answer : Type} (action : IO Answer) : IO (Except FileError Answer) := do
  try
    return .ok (← action)
  catch error =>
    return .error (.ofSystem error)

/-- Performs a session on the files of the system. -/
def Session.perform {Result : Type} : Session Result → IO Result
  | finish result => pure result
  | read path next => do (next (← attempt (IO.FS.readFile path))).perform
  | write path content next => do (next (← attempt (IO.FS.writeFile path content))).perform

def usage : String :=
  "Usage: povgen [--config FILE] [-v] COMMAND\n\nCommands:\n" ++
  "  generate [--out FILE] [--no-check]  write the generated classes\n" ++
  "  check                               validate the class tables\n" ++
  "  list                                list every class\n" ++
  "  describe CLASS [--json]             show the attributes of one class\n"

end SceneCatalog

open SceneCatalog in
def main (arguments : List String) : IO UInt32 := do
  let stderr ← IO.getStderr
  match Invocation.ofArguments? arguments (← IO.getEnv "POVGEN_CONFIG") with
  | none =>
    stderr.putStr usage
    return 2
  | some invocation =>
    match ← (invocation.session catalog).perform with
    | .ok output =>
      IO.print output
      return 0
    | .error error =>
      stderr.putStr ("error: " ++ error.message ++ "\n")
      return 1
