import EntityScript.Proofs.Command.Running
import Mathlib.Control.Monad.Basic

/-!
# The files of the generating command

The generating command loads its inputs first (`inputs`), so that nothing is written where they
cannot be loaded. Then there is a run, which may fail, and what it gives is delivered (`deliver`):
the log in any case, and the output after it if both the run and the writing of the log succeeded.
The failures of the two steps are told from one that comes of writing the output, after which alone
the output file may have changed.

**Main statement**: what the command leaves in files, on any host whose files are seen faithfully
(`generate_files`).
-/

namespace EntityScript

namespace Command

open Host (ReadsQuietly textIn writeIn)
open Metadata (Entity)

/-! ### The steps of the command -/

section Steps

variable {m : Type → Type} [Monad m] [Host m]

/-- Loads what the command works on, the configuration before the records. -/
def inputs (a : GenerateArguments) : ExceptT Fault m (Config × List Entity) := do
  let config ← configure a
  let entities ← loadMetadata a.metadata
  pure (config, entities)

/-- Writes what a run gives: its log, and then the output if the run succeeded. -/
def deliver (a : GenerateArguments) (log : Log) (outcome : Except Failure GenerationResult) :
    ExceptT Fault m Unit := do
  writeLog a.log log
  match outcome with
  | .error failure => throw (.generationFailed failure)
  | .ok result =>
    match a.output with
    | some path => writeText path result.output (.writingOutput path)
    | none => print result.output

end Steps

variable {σ : Type} [Host (StateM σ)] {a : GenerateArguments} {s : σ}

/-- The run that the command makes of its inputs in a state. -/
def ran (s : σ) (config : Config) (entities : List Entity) :
    Generator × Except Failure GenerationResult :=
  (Generator.new config).generate (textIn s config.scriptTemplate) entities

/-- The command loads its inputs, and delivers what it runs. As loading leaves the state, the run
and the delivery start from the state that the command was given. -/
theorem runIn_generate (hread : ReadsQuietly σ) (a : GenerateArguments) (s : σ) :
    runIn (generate a) s =
      match (runIn (inputs a) s).1 with
      | .error fault => (.error fault, s)
      | .ok (config, entities) =>
        runIn (deliver a (ran s config entities).1.log (ran s config entities).2) s := by
  have hconfigure := IsQuiet.configure hread a s
  have hmetadata := IsQuiet.loadMetadata hread a.metadata s
  rw [generate, inputs, runIn_bind, runIn_bind]
  -- Both inputs are loaded without a change, so one state stands for all three here.
  cases hconfig : runIn (configure a) s with
  | mk r s' =>
    obtain rfl : s' = s := by rwa [hconfig] at hconfigure
    cases r with
    | error fault => rfl
    | ok config =>
      dsimp only
      rw [runIn_bind, runIn_bind]
      cases hentities : runIn (loadMetadata a.metadata) s' with
      | mk r s'' =>
        obtain rfl : s'' = s' := by rwa [hentities] at hmetadata
        cases r with
        | error fault => rfl
        | ok entities =>
          dsimp only
          rw [runIn_bind_of_ok (runIn_lift_readText hread config.scriptTemplate _)]
          rfl

/-! ### Writing the log -/

/-- The log is written if it is asked for. -/
def LogWritten (s : σ) (path : Option String) (log : Log) : Prop :=
  ∀ p, path = some p → (writeIn s p log.text).1 = .ok ()

/-- The state after the log was written or reported, or could not be written. -/
def afterLog (s : σ) (path : Option String) (log : Log) : σ :=
  (runIn (writeLog path log) s).2

/-- Writing the log succeeds if it is not asked for or can be written; otherwise its path and the
cause are those of the fault. In both cases the state is the one after the log. -/
theorem runIn_writeLog (s : σ) (path : Option String) (log : Log) :
    (LogWritten s path log ∧ runIn (writeLog path log) s = (.ok (), afterLog s path log)) ∨
    ∃ p cause, path = some p ∧ (writeIn s p log.text).1 = .error cause ∧
      runIn (writeLog path log) s = (.error (.writingLog p cause), afterLog s path log) := by
  cases path with
  | none =>
    refine .inl ⟨nofun, ?_⟩
    rw [afterLog, writeLog]
    split <;> rfl
  | some p =>
    rw [afterLog, writeLog, runIn_writeText]
    cases hwrite : (writeIn s p log.text).1 with
    | ok _ =>
      refine .inl ⟨?_, rfl⟩
      rintro _ ⟨⟩
      exact hwrite
    | error cause => exact .inr ⟨p, cause, rfl, hwrite, rfl⟩

variable {v : FileView σ}

/-- Writing the log changes no file but that of the log. A log without a path is reported to the
user or, if logging is off, goes nowhere; neither touches a file. -/
theorem keepsBut_afterLog (hv : v.IsFaithful) (s : σ) (path : Option String) (log : Log) :
    v.KeepsBut (v.Names s path) s (afterLog s path log) := by
  rw [afterLog]
  cases path with
  | none =>
    rw [writeLog]
    split
    · exact .refl _ s
    · exact (hv.report_keeps s log.text).mono fun _ => False.elim
  | some p =>
    rw [writeLog, runIn_writeText]
    exact hv.write_keeps s p log.text

theorem holds_afterLog (hv : v.IsFaithful) {p : String} {log : Log}
    (h : (writeIn s p log.text).1 = .ok ()) : v.Holds (afterLog s (some p) log) p log.text := by
  rw [afterLog, writeLog, runIn_writeText]
  exact hv.write_holds s p log.text h

/-! ### Delivery -/

/-- How the delivery of what a run gives may end, with the state after it. -/
inductive Delivers (a : GenerateArguments) (log : Log)
    (outcome : Except Failure GenerationResult) (s : σ) : Except Fault Unit × σ → Prop
  | logFailed {path : String} {cause : FileError} (hlog : a.log = some path)
    (hwrite : (writeIn s path log.text).1 = .error cause) :
    Delivers a log outcome s (.error (.writingLog path cause), afterLog s a.log log)
  | runFailed {failure : Failure} (hlog : LogWritten s a.log log)
    (houtcome : outcome = .error failure) :
    Delivers a log outcome s (.error (.generationFailed failure), afterLog s a.log log)
  | written {result : GenerationResult} {path : String} (hlog : LogWritten s a.log log)
    (houtcome : outcome = .ok result) (hpath : a.output = some path) :
    Delivers a log outcome s
      ((writeIn (afterLog s a.log log) path result.output).1.mapError (.writingOutput path),
        (writeIn (afterLog s a.log log) path result.output).2)
  | printed {result : GenerationResult} (hlog : LogWritten s a.log log)
    (houtcome : outcome = .ok result) (hpath : a.output = none) :
    Delivers a log outcome s
      (.ok (), ((Host.print result.output : StateM σ Unit) (afterLog s a.log log)).2)

/-- The delivery ends in one of the four ways. The log comes first in all of them, and its failure
hides how the run ended. -/
theorem delivers (a : GenerateArguments) (log : Log) (outcome : Except Failure GenerationResult)
    (s : σ) : Delivers a log outcome s (runIn (deliver a log outcome) s) := by
  unfold deliver
  obtain ⟨hlog, hrun⟩ | ⟨path, cause, hpath, hwrite, hrun⟩ := runIn_writeLog s a.log log
  · rw [runIn_bind_of_ok hrun]
    cases houtcome : outcome with
    | error failure => exact .runFailed hlog rfl
    | ok result =>
      dsimp only
      split
      · next path hpath =>
        rw [runIn_writeText]
        exact .written hlog rfl hpath
      · next hpath => exact .printed hlog rfl hpath
  · rw [runIn_bind_of_error hrun]
    exact .logFailed hpath hwrite

/-- The end of a command that came to writing its output: that, or a failure of the writing. -/
def CameToOutput (result : Except Fault Unit) : Prop :=
  result = .ok () ∨ ∃ path cause, result = .error (.writingOutput path cause)

namespace Delivers

variable {log : Log} {outcome : Except Failure GenerationResult} {r : Except Fault Unit} {s' : σ}

/-- The command comes to writing its output if the run succeeded and the log is written, and only
then. -/
theorem cameToOutput_iff (h : Delivers a log outcome s (r, s')) :
    CameToOutput r ↔ LogWritten s a.log log ∧ ∃ result, outcome = .ok result := by
  cases h with
  | logFailed hpath hwrite =>
    refine iff_of_false (by simp [CameToOutput]) fun ⟨hlog, _⟩ => ?_
    cases hwrite.symm.trans (hlog _ hpath)
  | runFailed hlog houtcome => simp [CameToOutput, houtcome]
  | @written result path hlog houtcome hpath =>
    refine iff_of_true ?_ ⟨hlog, result, houtcome⟩
    cases (writeIn (afterLog s a.log log) path result.output).1 with
    | ok _ => exact .inl rfl
    | error cause => exact .inr ⟨path, cause, rfl⟩
  | @printed result hlog houtcome hpath => exact iff_of_true (.inl rfl) ⟨hlog, result, houtcome⟩

/-- A log that cannot be written is what the command fails with, even if the run failed before. The
output is not written then, so there is never an output file without the log that goes with it. -/
theorem eq_writingLog (h : Delivers a log outcome s (r, s')) {path : String} {cause : FileError}
    (hpath : a.log = some path) (hwrite : (writeIn s path log.text).1 = .error cause) :
    r = .error (.writingLog path cause) := by
  have hlog : ¬ LogWritten s a.log log := by
    intro hlog
    cases hwrite.symm.trans (hlog path hpath)
  cases h with
  | logFailed hpath' hwrite' =>
    cases hpath.symm.trans hpath'
    cases hwrite.symm.trans hwrite'
    rfl
  | runFailed hlog' _ => exact absurd hlog' hlog
  | written hlog' _ _ => exact absurd hlog' hlog
  | printed hlog' _ _ => exact absurd hlog' hlog

/-- A run that fails is what the command fails with once its log is written. Its log is written all
the same, as it tells of the failure. -/
theorem eq_generationFailed (h : Delivers a log outcome s (r, s')) {failure : Failure}
    (hlog : LogWritten s a.log log) (houtcome : outcome = .error failure) :
    r = .error (.generationFailed failure) := by
  cases h with
  | logFailed hpath hwrite => cases hwrite.symm.trans (hlog _ hpath)
  | runFailed _ hfailed =>
    cases houtcome.symm.trans hfailed
    rfl
  | written _ hok _ => cases houtcome.symm.trans hok
  | printed _ hok _ => cases houtcome.symm.trans hok

/-- A run that succeeded gives its output to the output file once the log is written, and whether
that succeeds is how the command ends. -/
theorem eq_writeIn (h : Delivers a log outcome s (r, s')) {path : String}
    {result : GenerationResult} (hpath : a.output = some path) (houtcome : outcome = .ok result)
    (hlog : LogWritten s a.log log) :
    r = (writeIn (afterLog s a.log log) path result.output).1.mapError (.writingOutput path) ∧
      s' = (writeIn (afterLog s a.log log) path result.output).2 := by
  cases h with
  | logFailed hlogPath hwrite => cases hwrite.symm.trans (hlog _ hlogPath)
  | runFailed _ hfailed => cases houtcome.symm.trans hfailed
  | written _ hwritten hwrittenPath =>
    cases houtcome.symm.trans hwritten
    cases hpath.symm.trans hwrittenPath
    exact ⟨rfl, rfl⟩
  | printed _ _ hnone => cases hpath.symm.trans hnone

/-- Nothing but the file of the log changes before the output is written. So an output file keeps
what an earlier run has written to it, whatever goes wrong. -/
theorem keepsBut_of_not_cameToOutput (hv : v.IsFaithful) (h : Delivers a log outcome s (r, s'))
    (hr : ¬ CameToOutput r) : v.KeepsBut (v.Names s a.log) s s' := by
  have hdue := mt h.cameToOutput_iff.mpr hr
  cases h with
  | logFailed _ _ => exact keepsBut_afterLog hv s a.log log
  | runFailed _ _ => exact keepsBut_afterLog hv s a.log log
  | written hlog houtcome _ => exact absurd ⟨hlog, _, houtcome⟩ hdue
  | printed hlog houtcome _ => exact absurd ⟨hlog, _, houtcome⟩ hdue

/-- After the log nothing changes but the output file, which is none if the output is printed. What
the file at the path of the log holds is therefore what was written to it. -/
theorem keepsBut_afterLog (hv : v.IsFaithful) (h : Delivers a log outcome s (r, s')) :
    v.KeepsBut (v.Names s a.output) (afterLog s a.log log) s' := by
  have hnames := Command.keepsBut_afterLog hv s a.log log
  cases h with
  | logFailed _ _ => exact .refl _ _
  | runFailed _ _ => exact .refl _ _
  | @written result path _ _ hpath =>
    rw [hpath]
    exact (hv.write_keeps _ path result.output).mono fun f => hnames.names_iff.mp
  | @printed result _ _ _ => exact (hv.print_keeps _ result.output).mono fun _ => False.elim

end Delivers

/-! ### The command as a whole -/

variable {config : Config} {entities : List Entity} {fault : Fault}

/-- Where the inputs cannot be loaded, nothing happens at all, and the command fails with their
fault. -/
theorem runIn_generate_of_error (hread : ReadsQuietly σ)
    (h : (runIn (inputs a) s).1 = .error fault) : runIn (generate a) s = (.error fault, s) := by
  rw [runIn_generate hread, h]

theorem delivers_of_ok (hread : ReadsQuietly σ)
    (h : (runIn (inputs a) s).1 = .ok (config, entities)) :
    Delivers a (ran s config entities).1.log (ran s config entities).2 s
      ((runIn (generate a) s).1, (runIn (generate a) s).2) := by
  rw [runIn_generate hread, h]
  exact delivers a _ _ s

/-- Nothing but the files of the output and the log changes, and only the latter where the command
does not come to writing its output. The two steps are joined here: up to the log, and after it. -/
theorem keepsBut_generate (hv : v.IsFaithful) (a : GenerateArguments) (s : σ) :
    v.KeepsBut (fun f => v.Names s a.output f ∨ v.Names s a.log f) s (runIn (generate a) s).2 ∧
    (¬ CameToOutput (runIn (generate a) s).1 →
      v.KeepsBut (v.Names s a.log) s (runIn (generate a) s).2) := by
  cases hinputs : (runIn (inputs a) s).1 with
  | error fault =>
    rw [runIn_generate_of_error hv.readsQuietly hinputs]
    exact ⟨.refl _ s, fun _ => .refl _ s⟩
  | ok loaded =>
    have hdelivers := delivers_of_ok hv.readsQuietly hinputs
    refine ⟨?_, hdelivers.keepsBut_of_not_cameToOutput hv⟩
    exact ((keepsBut_afterLog hv s a.log _).mono fun _ => .inr).trans
      ((hdelivers.keepsBut_afterLog hv).mono fun _ => .inl)

/-- **What the generating command leaves in files.** Where its output and its log are different
files, it changes no other file, and the output file only by writing it. Where its inputs cannot be
loaded, nothing happens at all. Otherwise the log, if it can be written, is that of the run, however
that ended; the command comes to writing its output exactly if the run succeeded and the log is
written, and then writes what the run gave. -/
theorem generate_files (hv : v.IsFaithful) {a : GenerateArguments} {s : σ}
    (hapart : ∀ f, ¬ (v.Names s a.output f ∧ v.Names s a.log f)) :
    let r := (runIn (generate a) s).1
    let s' := (runIn (generate a) s).2
    v.KeepsBut (fun f => v.Names s a.output f ∨ v.Names s a.log f) s s' ∧
    (¬ CameToOutput r → ∀ f, v.Names s a.output f → v.content? s' f = v.content? s f) ∧
    (∀ fault, (runIn (inputs a) s).1 = .error fault → r = .error fault ∧ s' = s) ∧
    ∀ config entities, (runIn (inputs a) s).1 = .ok (config, entities) →
      let log := (ran s config entities).1.log
      let outcome := (ran s config entities).2
      (∀ path, a.log = some path → (writeIn s path log.text).1 = .ok () →
        v.Holds s' path log.text) ∧
      (∀ path cause, a.log = some path → (writeIn s path log.text).1 = .error cause →
        r = .error (.writingLog path cause)) ∧
      (∀ failure, LogWritten s a.log log → outcome = .error failure →
        r = .error (.generationFailed failure)) ∧
      (CameToOutput r ↔ LogWritten s a.log log ∧ ∃ result, outcome = .ok result) ∧
      ∀ path result, a.output = some path → LogWritten s a.log log → outcome = .ok result →
        let written := writeIn (afterLog s a.log log) path result.output
        r = written.1.mapError (.writingOutput path) ∧ s' = written.2 ∧
        (r = .ok () → v.Holds s' path result.output) := by
  intro r s'
  obtain ⟨hkeeps, hquiet⟩ := keepsBut_generate hv a s
  refine ⟨hkeeps, fun hr f hf => ?_, fun fault hinputs => ?_, fun config entities hinputs => ?_⟩
  · exact (hquiet hr).content?_eq f fun hlog => hapart f ⟨hf, hlog⟩
  · have hgenerate := runIn_generate_of_error hv.readsQuietly hinputs
    exact ⟨congrArg Prod.fst hgenerate, congrArg Prod.snd hgenerate⟩
  · intro log outcome
    have hdelivers : Delivers a log outcome s (r, s') := delivers_of_ok hv.readsQuietly hinputs
    refine ⟨fun path hpath hwrite => ?_, fun path cause hpath hwrite => ?_,
      fun failure hlog houtcome => ?_, hdelivers.cameToOutput_iff,
      fun path result hpath hlog houtcome => ?_⟩
    · -- The log is written first, and the output goes to another file.
      have hholds : v.Holds (afterLog s a.log log) path log.text := by
        rw [hpath]
        exact holds_afterLog hv hwrite
      refine (hdelivers.keepsBut_afterLog hv).holds (fun f hf houtput => ?_) hholds
      rw [← hpath, (keepsBut_afterLog hv s a.log log).names_iff] at hf
      exact hapart f ⟨houtput, hf⟩
    · exact hdelivers.eq_writingLog hpath hwrite
    · exact hdelivers.eq_generationFailed hlog houtcome
    · intro written
      obtain ⟨hr, hs'⟩ := hdelivers.eq_writeIn hpath houtcome hlog
      refine ⟨hr, hs', fun hok => ?_⟩
      rw [hs']
      refine hv.write_holds _ path result.output ?_
      rw [hok] at hr
      cases hwritten : written.1 with
      | ok _ => rfl
      | error cause => rw [hwritten] at hr; cases hr

/-- A template that is not there: the run fails, the log tells so, and the output file keeps what an
earlier run has written to it. -/
theorem generate_files_missing_template :
    let s : Session := { workspace := ⟨[(["dump.json".toList], .file "[]".toUTF8),
      (["form.ts".toList], .file "let x".toUTF8)]⟩ }
    let a : GenerateArguments := {
      metadata := "dump.json", template := some "form.xml", output := some "form.ts"
      log := some "form.log", loggingLevel := some .exception }
    let r := (runIn (generate a) s).1
    let s' := (runIn (generate a) s).2
    r = .error (.generationFailed (.templateNotFound "form.xml" .notFound)) ∧
      s'.workspace.content? ["form.ts".toList] = some "let x".toUTF8 ∧
      Session.files.Holds s' "form.log" "Exception: template not found: form.xml\n" := by
  intro s a r s'
  have houtput : Session.files.fileAt? s "form.ts" = some ["form.ts".toList] := by rfl
  have hlog : Session.files.fileAt? s "form.log" = some ["form.log".toList] := by rfl
  have hapart : ∀ f, ¬ (Session.files.Names s a.output f ∧ Session.files.Names s a.log f) := by
    rintro f ⟨⟨_, ⟨⟩, hf⟩, ⟨_, ⟨⟩, hf'⟩⟩
    cases houtput.symm.trans hf
    have hsame : ["form.log".toList] = ["form.ts".toList] := Option.some.inj (hlog.symm.trans hf')
    exact absurd hsame (by decide)
  have hinputs : (runIn (inputs a) s).1 =
      .ok ({ scriptTemplate := "form.xml", loggingLevel := .exception }, []) := by
    have htext : textIn s "dump.json" = .ok "[]" := by decide +kernel
    have hload : Metadata.loadDump "[]" = .ok [] := by decide +kernel
    have hmetadata := runIn_loadMetadata Session.isFaithful_files.readsQuietly htext
    rw [hload] at hmetadata
    have hconfigure : runIn (configure a) s =
      (.ok { scriptTemplate := "form.xml", loggingLevel := .exception }, s) := rfl
    rw [inputs, runIn_bind_of_ok hconfigure, runIn_bind_of_ok hmetadata]
    rfl
  obtain ⟨-, hsame, -, hran⟩ := generate_files Session.isFaithful_files hapart
  obtain ⟨hholds, -, hfailed, hcame, -⟩ := hran _ _ hinputs
  have hwrite : (writeIn s "form.log" "Exception: template not found: form.xml\n").1 = .ok () := by
    rfl
  have hwritten : LogWritten s a.log ⟨.exception, "Exception: template not found: form.xml\n"⟩ := by
    rintro _ ⟨⟩
    exact hwrite
  have hfault := hfailed (.templateNotFound "form.xml" .notFound) hwritten rfl
  refine ⟨hfault, ?_, hholds "form.log" rfl hwrite⟩
  have hnot : ¬ CameToOutput r := by
    rintro (h | ⟨_, _, h⟩) <;> cases hfault.symm.trans h
  exact hsame hnot _ ⟨_, rfl, houtput⟩

end Command

end EntityScript
