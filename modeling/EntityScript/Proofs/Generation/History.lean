import EntityScript.Proofs.Generation.LogProjection

/-!
# The history of a generator

A generator answers one call after the other: it loads its template, runs a template, or does
both. Between the calls the cancel flag and the template's file may change, and any call may fail.

What a generator keeps from its history is its log, which it carries under the level of its
configuration (`IsOver`); every answer leaves it so (`IsOver.answer`), hence every sequence of
answers does (`IsOver.after`). A run starts by forgetting that log, and loading adds to it.

**Main statement**: after any calls a run ends as on a generator that has never been called, with
the same log, and loading adds the lines of its own records to the log that is there
(`Generator.answers_independent_of_history`).
-/

namespace EntityScript

open Metadata (Entity)

namespace Generator

/-! ### Calls -/

/-- What is asked of a generator. -/
inductive Request where
  | loadTemplate
  | generate (entities : List Entity)
  | generateWith (d : Template.Document) (entities : List Entity)

/-- A request, with the flag and the template's file as they are when it is made. -/
structure Call where
  request : Request
  flag : Option Bool
  content : Except FileError String

/-- The generator after it has answered a call. -/
def answer (g : Generator) (call : Call) : Generator :=
  let g := g.withFlag call.flag
  match call.request with
  | .loadTemplate => (g.loadTemplate call.content).1
  | .generate entities => (g.generate call.content entities).1
  | .generateWith d entities => (g.generateWith d entities).1

/-- The generator after it has answered calls one after the other. -/
def after (g : Generator) (calls : List Call) : Generator :=
  calls.foldl answer g

/-! ### What every answer leaves -/

/-- The generator has the configuration, and a log of its level. -/
structure IsOver (c : Config) (g : Generator) : Prop where
  config_eq : g.config = c
  level_log : g.log.level = c.loggingLevel

theorem isOver_new (c : Config) : IsOver c (new c) :=
  ⟨rfl, rfl⟩

namespace IsOver

variable {c : Config} {g : Generator}

theorem withFlag (h : IsOver c g) (flag : Option Bool) : IsOver c (g.withFlag flag) :=
  ⟨h.config_eq, h.level_log⟩

theorem resetLog (h : IsOver c g) : IsOver c g.resetLog :=
  ⟨h.config_eq, congrArg Config.loggingLevel h.config_eq⟩

theorem perform {α : Type} (h : IsOver c g) (r : Run α) : IsOver c (g.perform r).1 :=
  ⟨h.config_eq, (Log.level_recordAll g.log r.records).trans h.level_log⟩

theorem runFresh (h : IsOver c g) (r : Run String) : IsOver c (g.runFresh r).1 :=
  h.resetLog.perform r

/-- An answer leaves the configuration and the level of the log as they were. The three kinds of
calls are the cases; whether the call fails makes no difference. -/
theorem answer (h : IsOver c g) (call : Call) : IsOver c (g.answer call) := by
  obtain ⟨request, flag, content⟩ := call
  cases request with
  | loadTemplate => exact (h.withFlag flag).perform _
  | generate entities => exact (h.withFlag flag).runFresh _
  | generateWith d entities => exact (h.withFlag flag).runFresh _

/-- So does every sequence of answers, by induction on the calls with the generator general. -/
theorem after (h : IsOver c g) (calls : List Call) : IsOver c (g.after calls) := by
  induction calls generalizing g with
  | nil => exact h
  | cons call calls ih => exact ih (h.answer call)

end IsOver

/-! ### Runs -/

/-- A run ends as another one does and leaves the same log, which a result carries. -/
structure EndsAs (r r' : Generator × Except Failure GenerationResult) : Prop where
  result_eq : r.2 = r'.2
  log_eq : r.1.log = r'.1.log
  log_of_ok : ∀ result, r.2 = .ok result → result.log = r.1.log.text

/-- A run depends on the configuration alone: what the generators have in their logs is forgotten at
the start of the run, and their flags have gone into the run already. -/
theorem endsAs_runFresh {g g' : Generator} (h : g.config = g'.config) (r : Run String) :
    EndsAs (g.runFresh r) (g'.runFresh r) := by
  have hreset : g.resetLog.log = g'.resetLog.log := by simp only [resetLog, h]
  refine ⟨?_, ?_, ?_⟩
  · simp only [runFresh, perform, hreset]
  · simp only [runFresh, perform, hreset]
  · intro result hresult
    cases h : r.outcome with
    | error e => simp only [runFresh, perform, h, Except.map, reduceCtorEq] at hresult
    | ok output =>
      simp only [runFresh, perform, h, Except.map, Except.ok.injEq] at hresult
      rw [← hresult]
      rfl

/-! ### Loading -/

/-- The records of loading a template: one beforehand, and one more on failure. -/
def loadingRecords (path : String) (outcome : Except Failure Template.Document) : List LogRecord :=
  ⟨.information, "Loading template: " ++ path⟩ ::
    match outcome with
    | .ok _ => []
    | .error e => [⟨.exception, e.message⟩]

/-- The records of loading follow from how it ends: one beforehand, and one more on failure. Both
are on the levels that say how far a call has come. -/
theorem records_loading (path : String) (content : Except FileError String) :
    (loading path content).records = loadingRecords path (loading path content).outcome := by
  simp only [loading, loadingRecords]
  cases Template.Document.ofFile path content <;> rfl

/-- Loading adds the lines of its records to the log, and nothing of the log is lost. A run that
follows begins a log of its own. -/
theorem text_log_loadTemplate (g : Generator) (content : Except FileError String) :
    (g.loadTemplate content).1.log.text =
      g.log.text ++ Log.lines g.log.level
        (loadingRecords g.config.scriptTemplate (g.loadTemplate content).2) := by
  simp only [loadTemplate, perform, Log.text_recordAll_eq_lines, records_loading]

/-- **A generator has no memory**: after any calls, under any flag and for any template file, a run
ends as on a fresh generator over the same configuration with the same flag, with the same log, and
a result carries that log. Loading only adds to the log: the line for its start and, on failure,
the line for the failure, as far as they are of the level. -/
theorem answers_independent_of_history (c : Config) (first : Option Bool) (calls : List Call)
    (flag : Option Bool) (content : Except FileError String) :
    let g := (((new c).withFlag first).after calls).withFlag flag
    let fresh := (new c).withFlag flag
    (∀ es, EndsAs (g.generate content es) (fresh.generate content es)) ∧
      (∀ d es, EndsAs (g.generateWith d es) (fresh.generateWith d es)) ∧
      (g.loadTemplate content).1.log.text =
        g.log.text ++ Log.lines c.loggingLevel
          (loadingRecords c.scriptTemplate (g.loadTemplate content).2) := by
  intro g fresh
  -- All that a call can see of the generator is its configuration and flag, and no earlier call
  -- changes the configuration.
  have hover : IsOver c g := (((isOver_new c).withFlag first).after calls).withFlag flag
  have hjob : ∀ es, g.job es = fresh.job es := by
    intro es
    exact congrArg (Generation.Job.mk · es flag) hover.config_eq
  refine ⟨fun es => ?_, fun d es => ?_, ?_⟩
  · rw [generate, generate, hjob, hover.config_eq]
    exact endsAs_runFresh hover.config_eq _
  · rw [generateWith, generateWith, hjob]
    exact endsAs_runFresh hover.config_eq _
  · rw [text_log_loadTemplate, hover.level_log, hover.config_eq]

end Generator

end EntityScript
