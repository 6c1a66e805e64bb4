import EntityScript.Command.Usage
import EntityScript.Config.Format
import EntityScript.Files.Host
import EntityScript.Generation.Generator
import EntityScript.Metadata.Json
import EntityScript.Template.Outline

/-!
# Commands

What the commands do, wherever they run. The generating command reads the configuration, then the
records, and then the template; it writes the log whether or not the run succeeded, and the output
only after both have.
-/

namespace EntityScript

namespace Command

open Metadata (Entity)

/-! ### Faults -/

/-- Why a command fails. -/
inductive Fault where
  | readingConfig (path : String) (cause : FileError)
  | unsupportedFormat (extension path : String)
  | parsingConfig (path : String) (cause : ConfigFault)
  | readingMetadata (path : String) (cause : FileError)
  | parsingMetadata (path : String) (cause : Json.Fault)
  | writingLog (path : String) (cause : FileError)
  | generationFailed (cause : Failure)
  | writingOutput (path : String) (cause : FileError)
  | invalidTemplate (cause : Failure)
  | alreadyExists (path : String)
  | writingConfig (path : String) (cause : FileError)
deriving DecidableEq, Repr

namespace Fault

/-- The message of a fault, without its cause. -/
def message : Fault → String
  | readingConfig path _ => "reading config " ++ path
  | unsupportedFormat extension path =>
    "unsupported config format '." ++ extension ++ "': " ++ path
  | parsingConfig path _ => "parsing config " ++ path
  | readingMetadata path _ => "reading metadata " ++ path
  | parsingMetadata path _ => "parsing metadata " ++ path
  | writingLog path _ => "writing log " ++ path
  | generationFailed _ => "generation failed"
  | writingOutput path _ => "writing output " ++ path
  | invalidTemplate cause => cause.message
  | alreadyExists path => path ++ " already exists (use --force to overwrite)"
  | writingConfig path _ => "writing " ++ path

/-- The failure of a run or a template behind a fault. -/
def failure? : Fault → Option Failure
  | generationFailed cause | invalidTemplate cause => some cause
  | _ => none

/-- The file error behind a fault. -/
def fileError? : Fault → Option FileError
  | readingConfig _ cause | readingMetadata _ cause | writingLog _ cause | writingOutput _ cause
  | writingConfig _ cause => some cause
  | _ => none

end Fault

variable {m : Type → Type} [Monad m] [Host m]

/-! ### Files -/

/-- Reads a text file. -/
def readText (path : String) (fault : FileError → Fault) : ExceptT Fault m String := do
  match ← (Host.readText path : m (Except FileError String)) with
  | .ok s => pure s
  | .error e => throw (fault e)

/-- Writes a text file. -/
def writeText (path text : String) (fault : FileError → Fault) : ExceptT Fault m Unit := do
  match ← (Host.write path text : m (Except FileError Unit)) with
  | .ok () => pure ()
  | .error e => throw (fault e)

/-- Writes a text to the output. -/
def print (text : String) : ExceptT Fault m Unit :=
  ExceptT.lift (Host.print text)

/-- Writes a text to the stream for diagnostics. -/
def report (text : String) : ExceptT Fault m Unit :=
  ExceptT.lift (Host.report text)

/-! ### Parts -/

/-- Reads a configuration file, in the format that its extension stands for. -/
def loadConfig (path : String) : ExceptT Fault m Config := do
  let text ← readText path (.readingConfig path)
  let extension := Path.extension? path
  match ConfigFormat.ofExtension? extension with
  | none => throw (.unsupportedFormat (extension.getD "") path)
  | some format =>
    match format.read text with
    | .ok config => pure (config.relativeTo path)
    | .error e => throw (.parsingConfig path e)

/-- Reads a file of records. -/
def loadMetadata (path : String) : ExceptT Fault m (List Entity) := do
  let text ← readText path (.readingMetadata path)
  match Metadata.loadDump text with
  | .ok entities => pure entities
  | .error e => throw (.parsingMetadata path e)

/-- Writes the log to its file, or reports it unless logging is disabled. -/
def writeLog (path : Option String) (log : Log) : ExceptT Fault m Unit :=
  match path with
  | some path => writeText path log.text (.writingLog path)
  | none => if log.level = .none then pure () else report log.text

/-- The configuration of the generating command. -/
def configure (a : GenerateArguments) : ExceptT Fault m Config := do
  let config ← match a.config with
    | some path => loadConfig path
    | none => pure {}
  pure { config with
    scriptTemplate := a.template.getD config.scriptTemplate
    loggingLevel := a.loggingLevel.getD config.loggingLevel }

/-! ### Commands -/

/-- Runs a template over the records of a file. -/
def generate (a : GenerateArguments) : ExceptT Fault m Unit := do
  let config ← configure a
  let entities ← loadMetadata a.metadata
  let content ← ExceptT.lift (Host.readText config.scriptTemplate)
  let (g, outcome) := (Generator.new config).generate content entities
  -- The log is written before the outcome is looked at, so that a failure leaves a log as well.
  writeLog a.log g.log
  match outcome with
  | .error failure => throw (.generationFailed failure)
  | .ok result =>
    match a.output with
    | some path => writeText path result.output (.writingOutput path)
    | none => print result.output

/-- Writes the default configuration; an existing file only if told so. -/
def init (output : Option String) (force : Bool) : ExceptT Fault m Unit := do
  let text := Config.toYaml {}
  match output with
  | none => print text
  | some path =>
    -- Unless forced, an existing file is never touched, not even to write the same.
    let isThere ← ExceptT.lift (Host.pathExists path)
    if isThere && !force then throw (.alreadyExists path)
    else writeText path text (.writingConfig path)

/-- Prints the outline of a template. -/
def check (path : String) : ExceptT Fault m Unit := do
  let content ← ExceptT.lift (Host.readText path)
  match Template.Document.ofFile path content with
  | .ok d => print d.outline
  | .error failure => throw (.invalidTemplate failure)

/-- Performs a task. -/
def perform : Task → ExceptT Fault m Unit
  | .generate a => generate a
  | .init output force => init output force
  | .check template => check template

end Command

end EntityScript
