import EntityScript.Command.Perform

/-!
# The command line program

Reads the arguments, performs the task on the files of the system, and says on the stream for
diagnostics why it failed.
-/

namespace EntityScript

/-- The file error of an error of the system. -/
def FileError.ofSystem : IO.Error → FileError
  | .noFileOrDirectory .. | .noSuchThing .. => .notFound
  | .inappropriateType .. => .isADirectory
  | .invalidArgument .. => .invalidInput
  | _ => .other

/-- Runs an action on a file. -/
def tryFile {α : Type} (action : IO α) : IO (Except FileError α) := do
  try
    return .ok (← action)
  catch e =>
    return .error (.ofSystem e)

instance : Host IO where
  read path := tryFile (IO.FS.readBinFile path)
  write path text := tryFile (IO.FS.writeFile path text)
  pathExists path := do
    match ← tryFile (IO.FS.readBinFile path) with
    | .error .notFound => return false
    | _ => return true
  print text := do (← IO.getStdout).putStr text
  report text := do (← IO.getStderr).putStr text

namespace Command

/-- How the program is used. -/
def usage : String :=
  "Usage: entityscript [-v] <COMMAND>\n\n" ++
  "Commands:\n" ++
  "  generate -m <METADATA> [-c <CONFIG>] [-t <TEMPLATE>] [-o <OUTPUT>] [--log <LOG>]\n" ++
  "           [--logging-level <LEVEL>]\n" ++
  "  init     [-o <OUTPUT>] [--force]\n" ++
  "  check    <TEMPLATE>\n" ++
  "  help     [COMMAND]\n"

/-- The version of the program. -/
def versionText : String :=
  "entityscript 0.1.0\n"

/-- The causes behind a fault, as lines. -/
def Fault.causes (f : Fault) : List String :=
  match f with
  | .parsingConfig _ cause => [cause.message]
  | .generationFailed cause => [cause.message]
  | f => (f.fileError?.map FileError.name).toList

/-- Answers a command line that gives nothing to run. -/
def answerUsage (f : UsageFault) : IO UInt32 := do
  match f with
  | .displayHelp =>
    Host.print usage
    return 0
  | .displayVersion =>
    Host.print versionText
    return 0
  | f =>
    Host.report ("error: " ++ f.name ++ "\n\n" ++ usage)
    return 2

/-- Runs the program on its arguments and gives the exit code. -/
def runMain (arguments : List String) : IO UInt32 := do
  match CommandLine.parse arguments with
  | .error f => answerUsage f
  | .ok line =>
    match ← (perform line.task : ExceptT Fault IO Unit).run with
    | .ok () => return 0
    | .error f =>
      Host.report ("Error: " ++ f.message ++ "\n")
      for cause in f.causes do
        Host.report ("  caused by: " ++ cause ++ "\n")
      return 1

end Command

end EntityScript

/-- The entry point. -/
def main (arguments : List String) : IO UInt32 :=
  EntityScript.Command.runMain arguments
