import EntityScript.Proofs.Generation.Steps

/-!
# Logs as projections

A run is the same at every level of its log. The level of a log only picks, from the records that
any run leaves, the lines that it shows: `Log.projection` is the text of a log of a level, as a
function of the records. It has the records of exactly that level, in their order, so the logs of
the three levels that keep anything share no line.

* **Walks**: the steps of a job, and what each of them does, do not depend on the level
  (`Job.walk_atLevel`).
* **Runs**: a run on a fresh log shows its records through the projection (`shows_runFresh`).
* **Ends**: the last record of a run tells how it ended (`Run.TellsEnd`), so records are never
  missing where there was something to tell.

**Main statement**: for each run there are one outcome and one list of records, and at every level
the generator shows that outcome and the projection of these records
(`Generator.exists_shows_at_every_level`).
-/

namespace EntityScript

open Metadata (Entity)
open Template (Node)

/-! ### Texts of logs -/

namespace Log

/-- The lines that a log of the level has for the records. -/
def lines (l : LogLevel) (rs : List LogRecord) : String :=
  String.join ((rs.filter fun r => l != .none && r.level == l).map fun r =>
    l.name ++ ": " ++ r.message ++ "\n")

/-- The text of a log of the level, for the records of a run. -/
def projection (l : LogLevel) (rs : List LogRecord) : String :=
  if l = .none then "Logging has been disabled.\n" else lines l rs

/-- A log without a level has no lines, as no record is of that level. The projection needs no case
of its own for that level. -/
theorem lines_none (rs : List LogRecord) : lines .none rs = "" := by
  have hnone : (rs.filter fun r => LogLevel.none != .none && r.level == .none) = [] :=
    List.filter_eq_nil_iff.mpr (by simp)
  rw [lines, hnone, List.map_nil, String.join_nil]

/-- Only a log without a level has a heading, which says that there will be nothing else. All other
logs begin with their first record. -/
theorem heading_of_ne {l : LogLevel} (hl : l ≠ .none) : heading l = "" := by
  cases l
  case none => exact absurd rfl hl
  all_goals rfl

/-- A log gains the lines of its level, each with the name of the level in front of it. The records
of other levels leave no trace, not even an empty line. -/
theorem text_recordAll_eq_lines (log : Log) (rs : List LogRecord) :
    (log.recordAll rs).text = log.text ++ lines log.level rs := by
  have hkeeps : keeps log.level = fun r => log.level != .none && r.level == log.level := by
    funext r
    by_cases h : r.level = log.level
    · simp only [keeps, h]
    · simp only [keeps, beq_eq_false_iff_ne.mpr h, Bool.and_false]
  -- The records that are kept are of the log's own level, so its name can be put for theirs.
  have hline : ∀ r ∈ rs.filter (keeps log.level),
      r.line = log.level.name ++ ": " ++ r.message ++ "\n" := by
    intro r hr
    have hlevel : r.level = log.level := by
      simpa [keeps] using (Bool.and_eq_true_iff.mp (List.mem_filter.mp hr).2).2
    rw [LogRecord.line, hlevel]
  rw [text_recordAll, List.map_congr_left hline, hkeeps, lines]

/-- A log that starts afresh shows the records through the projection. It is the point where texts
of logs are left and records are spoken of. -/
theorem text_recordAll_start (l : LogLevel) (rs : List LogRecord) :
    ((start l).recordAll rs).text = projection l rs := by
  rw [text_recordAll_eq_lines, projection]
  -- Without a level there is the heading and nothing else; with one there is no heading.
  split_ifs with hl
  · subst hl
    exact (congrArg (heading .none ++ ·) (lines_none rs)).trans String.append_empty
  · simp only [start, heading_of_ne hl, String.empty_append]

end Log

namespace Config

/-- The configuration with another level for its logs. -/
def atLevel (c : Config) (l : LogLevel) : Config :=
  { c with loggingLevel := l }

end Config

/-! ### Walks -/

namespace Generation

theorem run_atLevel (c : Config) (l : LogLevel) (s : Step) : s.run (c.atLevel l) = s.run c := by
  cases s <;> rfl

theorem runSteps_atLevel (c : Config) (l : LogLevel) (ss : List Step) :
    runSteps (c.atLevel l) ss = runSteps c ss := by
  simp only [runSteps, funext (run_atLevel c l)]

namespace Job

/-- The job with another level for its log. -/
def atLevel (job : Job) (l : LogLevel) : Job :=
  { job with config := job.config.atLevel l }

mutual

/-- A node has the same steps at every level. The level is a part of the configuration that no step
reads. -/
theorem stepsOf_atLevel (job : Job) (l : LogLevel) (current : Option Entity) : ∀ n : Node,
    (job.atLevel l).stepsOf current n = job.stepsOf current n
  | .literal text => rfl
  | .entity children => by
    rw [stepsOf, stepsOf]
    simp only [fun e => stepsOfAll_atLevel job l (some e) children]
    rfl
  | .attributeList fragment => rfl
  | .container children => by
    rw [stepsOf, stepsOf]
    simp only [stepsOfAll_atLevel job l current children]
  | .ignored name => rfl

theorem stepsOfAll_atLevel (job : Job) (l : LogLevel) (current : Option Entity) :
    ∀ ns : List Node, (job.atLevel l).stepsOfAll current ns = job.stepsOfAll current ns
  | [] => rfl
  | n :: ns => by
    rw [stepsOfAll, stepsOfAll, stepsOf_atLevel job l current n,
      stepsOfAll_atLevel job l current ns]

end

/-- **A walk does not know the level**: what it records and how it ends is the same. Which of its
records are kept is decided by the log. -/
theorem walk_atLevel (job : Job) (l : LogLevel) (d : Template.Document) :
    (job.atLevel l).walk d = job.walk d := by
  rw [walk_eq_runSteps, walk_eq_runSteps, stepsOfAll_atLevel]
  exact runSteps_atLevel job.config l _

end Job

end Generation

/-! ### Ends of runs -/

namespace Run

variable {α : Type}

/-- A log of a level that keeps anything shows the messages of that level, each on a line and behind
the name of the level. -/
theorem projection_eq_join_messages {l : LogLevel} (hl : l ≠ .none) (r : Run α) :
    Log.projection l r.records =
      String.join ((r.messages l).map fun m => l.name ++ ": " ++ m ++ "\n") := by
  have hkept : (l != .none) = true := by simpa using hl
  simp only [Log.projection, if_neg hl, Log.lines, hkept, Bool.true_and, messages, List.map_map]
  rfl

/-- The record that tells how a run ended. -/
def endRecord : Except Failure α → LogRecord
  | .ok _ => ⟨.information, "Generation complete"⟩
  | .error e => ⟨.exception, e.message⟩

/-- The last record tells how the run ended. -/
def TellsEnd (r : Run α) : Prop :=
  r.records.getLast? = some (endRecord r.outcome)

/-- Runs that go before do not change what the last record tells, as long as they succeed. A run
that fails is itself the last one. -/
theorem TellsEnd.bind_of_ok {β : Type} {r : Run α} {a : α} {f : α → Run β} (h : r.outcome = .ok a)
    (hf : (f a).TellsEnd) : (r >>= f).TellsEnd := by
  rw [TellsEnd, Run.bind_of_ok h, List.getLast?_append, show (f a).records.getLast? = _ from hf]
  rfl

/-- A run that fails tells so at its end once its failure is recorded. A run that succeeds is left
to tell its end by itself. -/
theorem tellsEnd_recordFailure {r : Run α} {e : Failure} (h : r.outcome = .error e) :
    r.recordFailure.TellsEnd := by
  simp only [TellsEnd, recordFailure, h, List.getLast?_concat, endRecord]

end Run

/-! ### Runs of a generator -/

namespace Generator

/-- The generator with another level for its logs. -/
def atLevel (g : Generator) (l : LogLevel) : Generator :=
  { g with config := g.config.atLevel l }

theorem running_atLevel (job : Generation.Job) (l : LogLevel) (d : Template.Document) :
    running (job.atLevel l) d = running job d := by
  simp only [running, Generation.Job.walk_atLevel]
  rfl

/-- A run through a template tells at its end that it is complete, or how it failed: its last step
is either the closing message or the record of the failure of the walk. -/
theorem tellsEnd_running (job : Generation.Job) (d : Template.Document) :
    (running job d).TellsEnd := by
  refine Run.TellsEnd.bind_of_ok (a := ()) rfl ?_
  -- After a failure of the walk the closing message is not reached.
  cases h : (job.walk d).outcome with
  | error e =>
    rw [Run.bind_of_error (e := e) (by simp only [Run.recordFailure, h])]
    simpa only [Run.TellsEnd, Run.recordFailure, h] using Run.tellsEnd_recordFailure h
  | ok output =>
    exact Run.TellsEnd.bind_of_ok (a := output) (by simp only [Run.recordFailure, h]) rfl

/-- A run that has to load its template tells its end as well, also if it never comes to the
walk. -/
theorem tellsEnd_loading_running (job : Generation.Job) (path : String)
    (content : Except FileError String) : (loading path content >>= running job).TellsEnd := by
  cases h : Template.Document.ofFile path content with
  | error e =>
    rw [Run.bind_of_error (e := e) (by simp only [loading, h]; rfl)]
    simp only [loading, h]
    rfl
  | ok d =>
    exact Run.TellsEnd.bind_of_ok (a := d) (by simp only [loading, h]; rfl) (tellsEnd_running job d)

/-- After a run at a level, the generator and the result show the outcome of the run, and of its
records those that a log of the level has. -/
structure Shows (l : LogLevel) (r : Run String)
    (after : Generator × Except Failure GenerationResult) : Prop where
  text_log : after.1.log.text = Log.projection l r.records
  result_eq : after.2 = r.outcome.map (⟨·, Log.projection l r.records⟩)

/-- A run on a fresh log shows what it leaves, whatever log was there before. No other part of the
generator has a say in it either. -/
theorem shows_runFresh (g : Generator) (l : LogLevel) (r : Run String) :
    Shows l r ((g.atLevel l).runFresh r) where
  text_log := Log.text_recordAll_start l r.records
  result_eq := by
    rw [← Log.text_recordAll_start]
    rfl

/-- After a run at a level that keeps anything, the log has the messages of that level, each on a
line. This is how the texts of logs are computed in all that follows. -/
theorem text_log_runFresh {g : Generator} {l : LogLevel} (h : g.config.loggingLevel = l)
    (hl : l ≠ .none) (r : Run String) :
    (g.runFresh r).1.log.text =
      String.join ((r.messages l).map fun m => l.name ++ ": " ++ m ++ "\n") := by
  rw [← Run.projection_eq_join_messages hl, ← h]
  exact Log.text_recordAll_start g.config.loggingLevel r.records

/-- **The log is a projection**: a run has one outcome and one list of records, of which the last
one tells the outcome, and at every level of the log the generator shows that outcome and the
projection of these records. That holds of a run through a template, and of a run that has to load
its template first, whatever the file of the template gives. -/
theorem exists_shows_at_every_level (g : Generator) (es : List Entity) :
    (∀ d, ∃ r : Run String, r.TellsEnd ∧ ∀ l, Shows l r ((g.atLevel l).generateWith d es)) ∧
      ∀ content, ∃ r : Run String, r.TellsEnd ∧
        ∀ l, Shows l r ((g.atLevel l).generate content es) := by
  refine ⟨fun d => ⟨running (g.job es) d, tellsEnd_running _ d, fun l => ?_⟩, fun content =>
    ⟨loading g.config.scriptTemplate content >>= running (g.job es),
      tellsEnd_loading_running _ _ content, fun l => ?_⟩⟩
  · rw [← running_atLevel (g.job es) l d]
    exact shows_runFresh g l _
  · rw [← funext (running_atLevel (g.job es) l)]
    exact shows_runFresh g l _

end Generator

end EntityScript
