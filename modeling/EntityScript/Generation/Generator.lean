import EntityScript.Generation.Walk

/-!
# Generators

A generator runs templates over one configuration, one run after the other, and keeps the log of
the latest run, whether that succeeded or not. Every run starts a fresh log; loading a template by
itself adds to the log that is there.
-/

namespace EntityScript

open Metadata (Entity)

/-- The generated text, and the log of the run. -/
structure GenerationResult where
  output : String
  log : String
deriving DecidableEq, Repr

/-- A generator. -/
structure Generator where
  config : Config
  log : Log
  /-- The cancel flag, up or down, if there is one. -/
  flag : Option Bool := none

namespace Generator

variable {α : Type}

/-- A generator that has not run. -/
def new (config : Config) : Generator :=
  ⟨config, .start config.loggingLevel, none⟩

/-- The generator with that cancel flag, or without one. -/
def withFlag (g : Generator) (flag : Option Bool) : Generator :=
  { g with flag }

/-- The generator with a cancel flag that is up or down. -/
def setCancelled (g : Generator) (up : Bool) : Generator :=
  g.withFlag (some up)

/-- There is a cancel flag, and it is up. -/
def cancelled (g : Generator) : Bool :=
  g.flag.getD false

/-- The generator with a fresh log. -/
def resetLog (g : Generator) : Generator :=
  { g with log := .start g.config.loggingLevel }

/-- The generator after a run, and how the run ended. -/
def perform (g : Generator) (r : Run α) : Generator × Except Failure α :=
  ({ g with log := g.log.recordAll r.records }, r.outcome)

/-! ### The parts of a run -/

/-- The run that loads the configured template, given what reading its file gives. -/
def loading (path : String) (content : Except FileError String) : Run Template.Document := do
  .record .information ("Loading template: " ++ path)
  (Run.ofExcept (Template.Document.ofFile path content)).recordFailure

/-- The run that goes through a template. -/
def running (job : Generation.Job) (d : Template.Document) : Run String := do
  .record .information ("Generating " ++ job.config.moduleName ++ " for " ++
    toString job.entities.length ++ " entities")
  let output ← (job.walk d).recordFailure
  .record .information "Generation complete"
  pure output

/-- The job of the generator on a list of entities. -/
def job (g : Generator) (entities : List Entity) : Generation.Job :=
  ⟨g.config, entities, g.flag⟩

/-- The generator after a whole run on a fresh log; a result carries the log. -/
def runFresh (g : Generator) (r : Run String) : Generator × Except Failure GenerationResult :=
  let (g, outcome) := g.resetLog.perform r
  (g, outcome.map (⟨·, g.log.text⟩))

/-! ### Operations -/

/-- Loads the configured template, given what reading its file gives. -/
def loadTemplate (g : Generator) (content : Except FileError String) :
    Generator × Except Failure Template.Document :=
  g.perform (loading g.config.scriptTemplate content)

/-- Runs a template that has been read. -/
def generateWith (g : Generator) (d : Template.Document) (entities : List Entity) :
    Generator × Except Failure GenerationResult :=
  g.runFresh (running (g.job entities) d)

/-- Loads the configured template, given what reading its file gives, and runs it. -/
def generate (g : Generator) (content : Except FileError String) (entities : List Entity) :
    Generator × Except Failure GenerationResult :=
  g.runFresh do
    let d ← loading g.config.scriptTemplate content
    running (g.job entities) d

end Generator

/-- Loads the configured template, given what reading its file gives, and runs it once. -/
def generateOnce (config : Config) (content : Except FileError String) (entities : List Entity) :
    Except Failure GenerationResult :=
  ((Generator.new config).generate content entities).2

end EntityScript
