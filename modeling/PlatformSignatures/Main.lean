import PlatformSignatures.CommandLine

/-!
# The program

The command line with the files of the working directory.
-/

open PlatformSignatures CommandLine

/-- The text of a file, or why it cannot be read. -/
def readPath (path : String) : IO (Except FileFault String) := do
  try
    return .ok (← IO.FS.readFile path)
  catch
    | .noFileOrDirectory .. => return .error .missing
    | .inappropriateType _ 21 _ => return .error .folder
    | .inappropriateType .. => return .error .notFolder
    | .invalidArgument .. => return .error .tooLong
    | e => return .error (.other (toString e))

/-- The paths that a command line reads. -/
def pathsOf (arguments : List String) : List String :=
  match parse arguments with
  | some (.run options) => options.model :: options.config.toList
  | _ => []

/-- Runs the program. -/
def main (arguments : List String) : IO UInt32 := do
  let contents ← (pathsOf arguments).mapM fun path => do return (path, ← readPath path)
  let outcome := run (fun path => (contents.lookup path).getD (.error .missing)) arguments
  match outcome with
  | .output text => IO.print text
  | .usage => IO.eprintln "error: wrong usage"
  | .failure report => report.forM IO.eprintln
  return UInt32.ofNat outcome.exitCode
