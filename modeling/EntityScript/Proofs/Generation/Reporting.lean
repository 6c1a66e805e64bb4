import EntityScript.Proofs.Generation.LogProjection

/-!
# Reports of failures

Two parts of a run record its failure, loading a template and going through one
(`Run.recordFailure`), and a failure can come from either. No other part makes a record on the
level of exceptions: the steps of a walk are quiet (`Step.IsQuiet`), and a failure of one of them
is recorded once, after the walk.

A run reports (`Run.Reports`) when its records on that level are what its end calls for: one with
the message of the failure, or none. Runs that report do so when one goes on after another
(`Run.Reports.bind`), as a run that has failed is the last one.

**Main statement**: a call reports its failure once and as its last record, and a call that gives a
result reports nothing and says at its end that it is complete
(`Generator.failure_reported_once`).
-/

namespace EntityScript

open Metadata (Entity)
open Template (Node)

namespace Run

variable {α β : Type}

/-! ### Quiet runs -/

/-- The records on the level of exceptions. -/
def exceptions (r : Run α) : List LogRecord :=
  r.records.filter (·.level == .exception)

theorem exceptions_bind_of_ok {r : Run α} {a : α} (h : r.outcome = .ok a) (f : α → Run β) :
    (r >>= f).exceptions = r.exceptions ++ (f a).exceptions := by
  simp only [exceptions, bind_of_ok h, List.filter_append]

theorem exceptions_bind_of_error {r : Run α} {e : Failure} (h : r.outcome = .error e)
    (f : α → Run β) : (r >>= f).exceptions = r.exceptions := by
  simp only [exceptions, bind_of_error h]

/-- The run has no record on the level of exceptions, however it ends. -/
def IsQuiet (r : Run α) : Prop :=
  r.exceptions = []

theorem isQuiet_iff {r : Run α} : r.IsQuiet ↔ r.messages .exception = [] :=
  List.map_eq_nil_iff.symm

theorem isQuiet_pure (a : α) : IsQuiet (Pure.pure a : Run α) := rfl

theorem isQuiet_fail (e : Failure) : IsQuiet (fail e : Run α) := rfl

theorem isQuiet_ofExcept (outcome : Except Failure α) : IsQuiet (ofExcept outcome) := rfl

theorem isQuiet_record {l : LogLevel} (hl : l ≠ .exception) (message : String) :
    IsQuiet (record l message) :=
  List.filter_cons_of_neg (by simpa using hl)

/-- Quiet runs one after the other are quiet, also if the first one fails. Hence a run is quiet if
every part of it is. -/
theorem IsQuiet.bind {r : Run α} {f : α → Run β} (h : r.IsQuiet) (hf : ∀ a, (f a).IsQuiet) :
    (r >>= f).IsQuiet :=
  isQuiet_iff.mpr (messages_bind_eq_nil (isQuiet_iff.mp h) fun a => isQuiet_iff.mp (hf a))

/-- So is a chain of quiet runs, by induction on its links. A walk is such a chain. -/
theorem isQuiet_concat {rs : List (Run String)} (h : ∀ r ∈ rs, r.IsQuiet) :
    (concat rs).IsQuiet := by
  induction rs with
  | nil => rfl
  | cons r rs ih =>
    have hrest : (concat rs).IsQuiet := ih fun s hs => h s (List.mem_cons_of_mem r hs)
    rw [concat_cons]
    exact (h r List.mem_cons_self).bind fun _ => hrest.bind fun _ => isQuiet_pure _

/-! ### Runs that report -/

/-- The records on the level of exceptions that an end calls for. -/
def report : Except Failure α → List LogRecord
  | .ok _ => []
  | .error e => [⟨.exception, e.message⟩]

/-- The records on the level of exceptions are what the end calls for. -/
def Reports (r : Run α) : Prop :=
  r.exceptions = report r.outcome

theorem reports_pure (a : α) : Reports (Pure.pure a : Run α) := rfl

theorem reports_record {l : LogLevel} (hl : l ≠ .exception) (message : String) :
    Reports (record l message) :=
  isQuiet_record hl message

/-- A quiet run reports as soon as it also records its failure, and a second record of it would be
one too many. This is the only source of records on the level of exceptions. -/
theorem reports_recordFailure {r : Run α} (h : r.IsQuiet) : r.recordFailure.Reports := by
  rw [IsQuiet] at h
  cases houtcome : r.outcome with
  | error e =>
    have hexceptions : r.recordFailure.exceptions = r.exceptions ++ [⟨.exception, e.message⟩] := by
      simp only [exceptions, recordFailure, houtcome, List.filter_append]
      rfl
    rw [Reports, hexceptions, h]
    simp only [recordFailure, houtcome, report, List.nil_append]
  | ok a => simp only [Reports, recordFailure, houtcome, h, report]

/-- Only the last of two runs has anything to report: the first one if it fails, else the second. So
reports never add up. -/
theorem Reports.bind {r : Run α} {f : α → Run β} (h : r.Reports) (hf : ∀ a, (f a).Reports) :
    (r >>= f).Reports := by
  rw [Reports] at h ⊢
  -- If the first run fails, its report is that of the whole; if not, it has made none.
  cases houtcome : r.outcome with
  | error e => rw [exceptions_bind_of_error houtcome, bind_of_error houtcome, h, houtcome]; rfl
  | ok a =>
    have hf : (f a).exceptions = report (f a).outcome := hf a
    rw [exceptions_bind_of_ok houtcome, bind_of_ok houtcome, h, houtcome, hf]
    rfl

end Run

/-! ### Walks -/

namespace Generation

/-- The step records nothing on the level of exceptions. -/
def Step.IsQuiet : Step → Prop
  | note level _ => level ≠ .exception
  | piece _ | halt _ => True

theorem Step.isQuiet_information (message : String) : (note .information message).IsQuiet :=
  (by decide : LogLevel.information ≠ .exception)

/-- A quiet step makes a quiet run: expanding a piece leaves messages on one level only, and a halt
fails without a word. -/
theorem Step.IsQuiet.run {s : Step} (h : s.IsQuiet) (c : Config) : (s.run c).IsQuiet := by
  cases s with
  | note level message => exact (Run.isQuiet_record h message).bind fun _ => Run.isQuiet_pure _
  | piece p =>
    have hpassages := Run.isQuiet_iff.mpr (messages_expandPassages_of_ne (by decide)
      (p.scopes c) (Template.passages (replaceProjectSlugs c p.text.toList)))
    exact hpassages.bind fun _ => Run.isQuiet_pure _
  | halt e => exact Run.isQuiet_fail e

namespace Job

/-- The steps for one entity are quiet, if those of the body are. The cases are those of the
visit. -/
theorem isQuiet_stepsVisiting (job : Job) {body : Entity → List Step}
    (h : ∀ e, ∀ s ∈ body e, s.IsQuiet) (e : Entity) :
    ∀ s ∈ job.stepsVisiting body e, s.IsQuiet := by
  have hproperties : ∀ s ∈ (job.propertyMessages e).map (Step.note .verbose), s.IsQuiet := by
    intro s hs
    obtain ⟨message, -, rfl⟩ := List.mem_map.mp hs
    exact (by decide : LogLevel.verbose ≠ .exception)
  rw [stepsVisiting]
  split_ifs
  · exact List.forall_mem_singleton.mpr trivial
  · exact List.forall_mem_singleton.mpr (Step.isQuiet_information _)
  · exact List.forall_mem_singleton.mpr (Step.isQuiet_information _)
  · exact List.forall_mem_cons.mpr
      ⟨Step.isQuiet_information _, List.forall_mem_append.mpr ⟨hproperties, h e⟩⟩

/-- The steps of an attribute list are quiet, wherever it stands. Outside of an entity it is one
note, which is of another level. -/
theorem isQuiet_stepsOfList (job : Job) (current : Option Entity) (fragment : Option String) :
    ∀ s ∈ job.stepsOfList current fragment, s.IsQuiet := by
  intro s hs
  cases current with
  | none =>
    obtain rfl := List.mem_singleton.mp hs
    exact Step.isQuiet_information _
  | some e =>
    cases fragment with
    | none => cases hs
    | some fragment =>
      obtain ⟨a, -, rfl⟩ := List.mem_map.mp hs
      trivial

mutual

/-- The steps of a node are quiet, by recursion over the node: all its own notes are on the level of
information or on that of the properties. -/
theorem isQuiet_stepsOf (job : Job) (current : Option Entity) :
    ∀ n : Node, ∀ s ∈ job.stepsOf current n, s.IsQuiet
  | .literal text => List.forall_mem_cons.mpr
      ⟨Step.isQuiet_information _, List.forall_mem_singleton.mpr trivial⟩
  | .entity children => by
    refine List.forall_mem_cons.mpr ⟨Step.isQuiet_information _, fun s hs => ?_⟩
    obtain ⟨e, -, hs⟩ := List.mem_flatMap.mp hs
    exact job.isQuiet_stepsVisiting (fun e => isQuiet_stepsOfAll job (some e) children) e s hs
  | .attributeList fragment => List.forall_mem_cons.mpr
      ⟨Step.isQuiet_information _, job.isQuiet_stepsOfList current fragment⟩
  | .container children => List.forall_mem_cons.mpr
      ⟨Step.isQuiet_information _, isQuiet_stepsOfAll job current children⟩
  | .ignored name => List.forall_mem_singleton.mpr (Step.isQuiet_information _)

theorem isQuiet_stepsOfAll (job : Job) (current : Option Entity) :
    ∀ ns : List Node, ∀ s ∈ job.stepsOfAll current ns, s.IsQuiet
  | [] => List.forall_mem_nil _
  | n :: ns => List.forall_mem_append.mpr
      ⟨isQuiet_stepsOf job current n, isQuiet_stepsOfAll job current ns⟩

end

/-- **A walk is quiet**: also when it fails, it leaves that to be recorded by whoever runs it. So a
failure is never recorded twice. -/
theorem isQuiet_walk (job : Job) (d : Template.Document) : (job.walk d).IsQuiet := by
  rw [walk_eq_runSteps, runSteps]
  refine Run.isQuiet_concat fun r hr => ?_
  obtain ⟨s, hs, rfl⟩ := List.mem_map.mp hr
  exact (isQuiet_stepsOfAll job none d.nodes s hs).run job.config

end Job

end Generation

/-! ### Runs of a generator -/

namespace Generator

/-- Loading a template reports its end: what it records besides is on the level of information. A
template that cannot be had is an exception, and it is recorded where it is met. -/
theorem reports_loading (path : String) (content : Except FileError String) :
    (loading path content).Reports :=
  (Run.reports_record (by decide) _).bind fun _ =>
    Run.reports_recordFailure (Run.isQuiet_ofExcept _)

/-- Running through a template reports its end, as the walk is quiet and its failure is recorded
once. -/
theorem reports_running (job : Generation.Job) (d : Template.Document) :
    (running job d).Reports :=
  (Run.reports_record (by decide) _).bind fun _ =>
    (Run.reports_recordFailure (job.isQuiet_walk d)).bind fun output =>
      (Run.reports_record (by decide) _).bind fun _ => Run.reports_pure output

/-- A call that makes the records of the run `r` reports its end once. -/
structure ReportsOnce (g : Generator) (r : Run String)
    (after : Generator × Except Failure GenerationResult) : Prop where
  /-- The records are those of the run, and the log starts afresh, whatever it held before. -/
  after_eq : after = g.runFresh r
  of_error : ∀ e, after.2 = .error e →
    r.exceptions = [⟨.exception, e.message⟩] ∧
      r.records.getLast? = some ⟨.exception, e.message⟩
  of_ok : ∀ result, after.2 = .ok result →
    r.exceptions = [] ∧ r.records.getLast? = some ⟨.information, "Generation complete"⟩
  log_of_error : g.config.loggingLevel = .exception → ∀ e, after.2 = .error e →
    after.1.log.text = "Exception: " ++ e.message ++ "\n"
  log_of_ok : g.config.loggingLevel = .exception → ∀ result, after.2 = .ok result →
    after.1.log.text = ""

section

variable {g : Generator} {r : Run String}

theorem runFresh_snd (g : Generator) (r : Run String) :
    (g.runFresh r).2 = r.outcome.map fun output => ⟨output, (g.runFresh r).1.log.text⟩ := rfl

/-- An answer that is a failure comes from a run that failed in the same way. The failure is passed
on as it is. -/
theorem outcome_of_runFresh_eq_error {e : Failure} (h : (g.runFresh r).2 = .error e) :
    r.outcome = .error e := by
  rw [runFresh_snd] at h
  cases houtcome : r.outcome with
  | error e' => simpa only [houtcome, Except.map, Except.error.injEq] using h
  | ok output => simp only [houtcome, Except.map, reduceCtorEq] at h

/-- An answer that is a result comes from a run that gave an output. The result has that output,
with the log of the run. -/
theorem outcome_of_runFresh_eq_ok {result : GenerationResult} (h : (g.runFresh r).2 = .ok result) :
    ∃ output, r.outcome = .ok output := by
  rw [runFresh_snd] at h
  cases houtcome : r.outcome with
  | error e => simp only [houtcome, Except.map, reduceCtorEq] at h
  | ok output => exact ⟨output, rfl⟩

theorem text_log_runFresh_exception (h : g.config.loggingLevel = .exception) (r : Run String) :
    (g.runFresh r).1.log.text =
      String.join (r.exceptions.map fun x => "Exception: " ++ x.message ++ "\n") := by
  rw [text_log_runFresh h (by decide), Run.messages, List.map_map]
  rfl

/-- A run that reports, and whose last record tells its end, does so once. The two conditions speak
of different things: how many records there are on one level, and which one is the last of all. -/
theorem reportsOnce_runFresh (hreports : r.Reports) (hends : r.TellsEnd) :
    ReportsOnce g r (g.runFresh r) where
  after_eq := rfl
  of_error e h := by
    rw [Run.Reports, outcome_of_runFresh_eq_error h] at hreports
    rw [Run.TellsEnd, outcome_of_runFresh_eq_error h] at hends
    exact ⟨hreports, hends⟩
  of_ok result h := by
    obtain ⟨output, houtcome⟩ := outcome_of_runFresh_eq_ok h
    rw [Run.Reports, houtcome] at hreports
    rw [Run.TellsEnd, houtcome] at hends
    exact ⟨hreports, hends⟩
  log_of_error hlevel e h := by
    rw [Run.Reports, outcome_of_runFresh_eq_error h] at hreports
    rw [text_log_runFresh_exception hlevel, hreports]
    exact String.join_cons.trans String.append_empty
  log_of_ok hlevel result h := by
    obtain ⟨output, houtcome⟩ := outcome_of_runFresh_eq_ok h
    rw [Run.Reports, houtcome] at hreports
    rw [text_log_runFresh_exception hlevel, hreports]
    rfl

end

/-- **A failure is reported once**: whether the template is given or has to be loaded, a call that
fails makes one record on the level of exceptions, with the message of the failure and as its last
one; a call that gives a result makes none, and its last record says that it is complete. A log of
that level then holds the line of the failure and nothing else, or nothing at all. -/
theorem failure_reported_once (g : Generator) (es : List Entity) :
    (∀ d, ReportsOnce g (running (g.job es) d) (g.generateWith d es)) ∧
      ∀ content, ReportsOnce g (loading g.config.scriptTemplate content >>= running (g.job es))
        (g.generate content es) :=
  ⟨fun d => reportsOnce_runFresh (reports_running _ d) (tellsEnd_running _ d), fun content =>
    reportsOnce_runFresh ((reports_loading _ content).bind (reports_running _))
      (tellsEnd_loading_running _ _ content)⟩

end Generator

end EntityScript
