import EntityScript.Proofs.Generation.Steps

/-!
# Filtering before a run

A configuration leaves records out in four ways: by rules and by type for entities, by rules and by
type for attributes. `Config.prefilter` leaves the same records out of a list beforehand, and
`Config.unfiltered` is the configuration that then has nothing left to do.

Both ways take the same steps, apart from notes on the level of information, which tell of the
records that are passed over (`Job.filter_stepsOf_prefiltered`). A piece of the one walk differs
from that of the other only in the attributes that its entity carries along, and no slug sees
those (`run_trim`).

**Main statement**: both ways give the same output or the same failure, and the same log on every
level but that of information (`Generator.generateWith_prefilter`).
-/

namespace EntityScript

open Metadata (Attribute Entity Scope)
open Template (Node Spelling)

/-! ### The records left out -/

namespace Config

/-- The configuration that includes every record and is the same otherwise. -/
def unfiltered (c : Config) : Config :=
  { c with
    entityFilters := .empty
    attributeFilters := .empty
    entityTypes := .both
    includeVirtualAttributes := true }

/-- The entity with the attributes that the configuration includes. -/
def trim (c : Config) (e : Entity) : Entity :=
  { e with attributes := e.attributes.filter c.includesAttribute }

/-- The entities that the configuration includes, each with the attributes that it includes. -/
def prefilter (c : Config) (es : List Entity) : List Entity :=
  (es.filter c.includesEntity).map c.trim

theorem includesEntity_unfiltered (c : Config) (e : Entity) :
    c.unfiltered.includesEntity e = true := rfl

theorem includesAttribute_unfiltered (c : Config) (a : Attribute) :
    c.unfiltered.includesAttribute a = true := by
  simp only [includesAttribute, filtersAttribute, unfiltered, Bool.or_true, Bool.and_true]
  rfl

end Config

namespace Generation

/-! ### Slugs do not see the attributes of an entity -/

/-- The piece with its entity trimmed. -/
def Piece.trim (c : Config) (p : Piece) : Piece :=
  { p with currentEntity := p.currentEntity.map c.trim }

/-- A slug has the same value after an entity is trimmed: the tables of properties do not show the
attributes of an entity, and no slug reads a filter. -/
theorem value?_scopes_trim (c : Config) (p : Piece) (w : Spelling) :
    ((p.trim c).scopes c.unfiltered).value? w = (p.scopes c).value? w := by
  obtain ⟨text, _ | e, a⟩ := p <;> simp only [Scopes.value?] <;> cases w.scope <;> rfl

/-- The step with the entity of its piece trimmed. -/
def Step.trim (c : Config) : Step → Step
  | note level message => note level message
  | piece p => piece (p.trim c)
  | halt e => halt e

/-- A step does the same when its entity is trimmed, and also under the configuration without
filters, which differs from the other one only in what no step reads. -/
theorem run_trim (c : Config) (s : Step) : (s.trim c).run c.unfiltered = s.run c := by
  cases s with
  | note level message => rfl
  | piece p =>
    simp only [Step.trim, Step.run, expand, expandPassages_congr (value?_scopes_trim c p)]
    rfl
  | halt e => rfl

theorem runSteps_trim (c : Config) (ss : List Step) :
    runSteps c.unfiltered (ss.map (Step.trim c)) = runSteps c ss := by
  simp only [runSteps, List.map_map, Function.comp_def, run_trim]

/-! ### Both ways take the same steps -/

/-- The step is more than a note on the level of information. -/
def Step.isAudible : Step → Bool
  | note level _ => level != .information
  | piece _ | halt _ => true

/-- Trimming does not change what is audible, since it leaves notes as they are. What is expanded is
trimmed to the fields that a slug can read. -/
theorem filter_map_trim (c : Config) (ss : List Step) :
    (ss.map (Step.trim c)).filter Step.isAudible =
      (ss.filter Step.isAudible).map (Step.trim c) := by
  have htrim : Step.isAudible ∘ Step.trim c = Step.isAudible := by
    funext s
    cases s <;> rfl
  rw [List.filter_map, htrim]

/-- Notes on the level of information have no part in what is left without that level. The induction
is on the steps. -/
theorem without_runSteps_filter (c : Config) (ss : List Step) :
    (runSteps c (ss.filter Step.isAudible)).without .information =
      (runSteps c ss).without .information := by
  induction ss with
  | nil => rfl
  | cons s ss ih =>
    rw [List.filter_cons]
    split_ifs with h
    · simp only [runSteps_cons, Run.without_bind, ih]
    · -- What is dropped is a note of the level that neither side keeps.
      obtain ⟨message, rfl⟩ : ∃ message, s = .note .information message := by
        cases s with
        | note level message =>
          exact ⟨message, by simpa [Step.isAudible] using h⟩
        | piece p => exact absurd rfl h
        | halt e => exact absurd rfl h
      rw [ih, runSteps_note, Run.without_bind, Run.without_record, pure_bind]

namespace Job

/-- The job on the records that are left when the others are left out beforehand. -/
def prefiltered (job : Job) : Job :=
  { job with
    config := job.config.unfiltered
    entities := job.config.prefilter job.entities }

section

variable {job : Job}

/-- The entities that are left beforehand have the steps that the included ones have, trimmed. On
the left no entity is passed over any more, on the right those that are leave only a note. -/
theorem filter_stepsVisiting_prefiltered (h : job.cancelled = false)
    {body body' : Entity → List Step}
    (hbody : ∀ e, (body' (job.config.trim e)).filter Step.isAudible =
      ((body e).filter Step.isAudible).map (Step.trim job.config)) (es : List Entity) :
    ((job.config.prefilter es).flatMap (job.prefiltered.stepsVisiting body')).filter
        Step.isAudible =
      ((es.flatMap (job.stepsVisiting body)).filter Step.isAudible).map
        (Step.trim job.config) := by
  have hall : (job.config.prefilter es).filter job.prefiltered.config.includesEntity =
      job.config.prefilter es :=
    List.filter_eq_self.mpr fun e _ => job.config.includesEntity_unfiltered e
  have hnotes : ∀ e, (job.prefiltered.propertyMessages (job.config.trim e)).map
      (Step.note .verbose) = (job.propertyMessages e).map (Step.note .verbose) := fun e => rfl
  have hsame : ∀ messages : List String,
      ((messages.map (Step.note .verbose)).filter Step.isAudible).map (Step.trim job.config) =
        (messages.map (Step.note .verbose)).filter Step.isAudible := by
    intro messages
    rw [← filter_map_trim, List.map_map]
    rfl
  -- Both sides become lists over the entities that are included, and are compared one by one.
  rw [filter_flatMap_stepsVisiting (show job.prefiltered.cancelled = false from h) fun _ => rfl,
    filter_flatMap_stepsVisiting h fun _ => rfl, hall, Config.prefilter, List.flatMap_map,
    List.map_flatMap]
  congr 1
  funext e
  rw [hnotes, List.filter_append, List.filter_append, List.map_append, hbody, hsame]

/-- The attributes that are left beforehand are those that are listed. With the filters taken out of
the configuration, none of them is left out a second time. -/
theorem stepsListing_prefiltered (fragment : String) (e : Entity) :
    job.prefiltered.stepsListing fragment (job.config.trim e) (job.config.trim e).attributes =
      (job.stepsListing fragment e e.attributes).map (Step.trim job.config) := by
  have hall : (job.config.trim e).attributes.filter job.prefiltered.config.includesAttribute =
      e.attributes.filter job.config.includesAttribute :=
    List.filter_eq_self.mpr fun a _ => job.config.includesAttribute_unfiltered a
  rw [stepsListing, hall, stepsListing, List.map_map]
  rfl

/-- An attribute list has the same steps, trimmed, for an entity with the attributes left
beforehand. -/
theorem stepsOfList_prefiltered (current : Option Entity) (fragment : Option String) :
    job.prefiltered.stepsOfList (current.map job.config.trim) fragment =
      (job.stepsOfList current fragment).map (Step.trim job.config) := by
  cases current with
  | none => rfl
  | some e =>
    cases fragment with
    | none => rfl
    | some fragment => exact stepsListing_prefiltered fragment e

mutual

/-- A node has the same steps, notes on the level of information apart. An entity node below another
one goes through all entities again, so the lists that are compared are always those of the job. -/
theorem filter_stepsOf_prefiltered (h : job.cancelled = false) (current : Option Entity) :
    ∀ n : Node,
      (job.prefiltered.stepsOf (current.map job.config.trim) n).filter Step.isAudible =
        ((job.stepsOf current n).filter Step.isAudible).map (Step.trim job.config)
  | .literal text => rfl
  | .entity children => by
    rw [stepsOf, stepsOf, filter_information_cons fun _ => rfl,
      filter_information_cons fun _ => rfl]
    exact filter_stepsVisiting_prefiltered h
      (fun e => filter_stepsOfAll_prefiltered h (some e) children) job.entities
  | .attributeList fragment => by
    rw [stepsOf, stepsOf, filter_information_cons fun _ => rfl,
      filter_information_cons fun _ => rfl, stepsOfList_prefiltered, filter_map_trim]
  | .container children => by
    rw [stepsOf, stepsOf, filter_information_cons fun _ => rfl,
      filter_information_cons fun _ => rfl,
      filter_stepsOfAll_prefiltered h current children]
  | .ignored name => rfl

/-- Nodes have the same steps, notes on the level of information apart. The induction is on the
nodes, together with the statement for one node. -/
theorem filter_stepsOfAll_prefiltered (h : job.cancelled = false) (current : Option Entity) :
    ∀ ns : List Node,
      (job.prefiltered.stepsOfAll (current.map job.config.trim) ns).filter Step.isAudible =
        ((job.stepsOfAll current ns).filter Step.isAudible).map (Step.trim job.config)
  | [] => rfl
  | n :: ns => by
    rw [stepsOfAll, stepsOfAll, List.filter_append, List.filter_append, List.map_append,
      filter_stepsOf_prefiltered h current n, filter_stepsOfAll_prefiltered h current ns]

end

/-- A walk over the records left beforehand has the same records on all levels but that of
information, and ends the same way. -/
theorem without_walk_prefiltered (h : job.cancelled = false) (d : Template.Document) :
    (job.prefiltered.walk d).without .information = (job.walk d).without .information := by
  rw [walk_eq_runSteps, walk_eq_runSteps, ← without_runSteps_filter,
    ← without_runSteps_filter job.config, ← runSteps_trim job.config,
    ← filter_stepsOfAll_prefiltered h none d.nodes]
  rfl

end

end Job

end Generation

/-! ### Runs of a generator -/

namespace Generator

/-- Without the level of information a run is its walk and the record of a failure. The two messages
that tell of its start and its end are of that level, and the first one counts the entities. -/
theorem without_running (job : Generation.Job) (d : Template.Document) :
    (running job d).without .information = ((job.walk d).without .information).recordFailure := by
  simp only [running, Run.without_bind, Run.without_record, Run.without_pure, pure_bind, bind_pure,
    Run.without_recordFailure (by decide : LogLevel.information ≠ .exception)]

/-- Two runs that differ on the level of information only end alike, and on every other level they
leave the same log. The configurations may differ in anything but the level. -/
theorem generateWith_eq_of_without {g g' : Generator} {d d' : Template.Document}
    {es es' : List Entity} (hlevel : g'.config.loggingLevel = g.config.loggingLevel)
    (hrun : (running (g'.job es') d').without .information =
      (running (g.job es) d).without .information) :
    (g'.generateWith d' es').2.map (·.output) = (g.generateWith d es).2.map (·.output) ∧
      (g.config.loggingLevel ≠ .information →
        (g'.generateWith d' es').1.log = (g.generateWith d es).1.log ∧
          (g'.generateWith d' es').2 = (g.generateWith d es).2) := by
  have houtcome : (running (g'.job es') d').outcome = (running (g.job es) d).outcome := by
    simpa only [Run.outcome_without] using congrArg Run.outcome hrun
  have hlog : g.config.loggingLevel ≠ .information →
      (g'.generateWith d' es').1.log = (g.generateWith d es).1.log := by
    intro hne
    rw [log_generateWith, log_generateWith, hlevel, ← Log.recordAll_without hne, hrun,
      Log.recordAll_without hne]
  refine ⟨?_, fun hne => ⟨hlog hne, ?_⟩⟩
  · rw [map_output_generateWith, map_output_generateWith, houtcome]
  · rw [generateWith_snd, generateWith_snd, houtcome, hlog hne]

/-- **Filtering is prefiltering**: on the records that the configuration includes, a run that
filters nothing ends as the run that filters all records, in the same output or the same failure.
On every level but that of information it leaves the same log and so the same result. -/
theorem generateWith_prefilter (g g' : Generator) (d : Template.Document) (es : List Entity)
    (hconfig : g'.config = g.config.unfiltered) (h : g.cancelled = false)
    (h' : g'.cancelled = false) :
    (g'.generateWith d (g.config.prefilter es)).2.map (·.output) =
        (g.generateWith d es).2.map (·.output) ∧
      (g.config.loggingLevel ≠ .information →
        (g'.generateWith d (g.config.prefilter es)).1.log = (g.generateWith d es).1.log ∧
          (g'.generateWith d (g.config.prefilter es)).2 = (g.generateWith d es).2) := by
  -- The two generators may have different flags, as long as none of them is up.
  have hjob : g'.job (g.config.prefilter es) = (g.job es).prefiltered.withFlag g'.flag := by
    rw [job, hconfig]
    rfl
  have hdown : (g.job es).cancelled = false := (g.cancelled_job es).trans h
  have hflag : ((g.job es).prefiltered.withFlag g'.flag).cancelled =
      (g.job es).prefiltered.cancelled := h'.trans h.symm
  have hrun : (running (g'.job (g.config.prefilter es)) d).without .information =
      (running (g.job es) d).without .information := by
    rw [hjob, without_running, without_running, Generation.Job.walk_withFlag hflag,
      Generation.Job.without_walk_prefiltered hdown]
  have hlevel : g'.config.loggingLevel = g.config.loggingLevel := by
    rw [hconfig]
    rfl
  exact generateWith_eq_of_without hlevel hrun

/-- The rules that come with a configuration, applied beforehand: a log of the substitutions does
not tell the two runs apart. -/
theorem generateWith_prefilter_verbose :
    (new (Config.unfiltered { loggingLevel := .verbose })).config =
        (new { loggingLevel := .verbose }).config.unfiltered ∧
      (new { loggingLevel := .verbose }).cancelled = false ∧
      (new (Config.unfiltered { loggingLevel := .verbose })).cancelled = false ∧
      LogLevel.verbose ≠ .information ∧
      (Config.prefilter { loggingLevel := .verbose }
          [{ logicalName := "syncerror" },
            { logicalName := "a", attributes := [{ schemaName := "X" },
              { schemaName := "VersionNumber" }] }] =
        [{ logicalName := "a", attributes := [{ schemaName := "X" }] }]) ∧
      ((new (Config.unfiltered { loggingLevel := .verbose })).generateWith
          ⟨[.entity [.attributeList (some "\x7b#attr (schemaname)#\x7d")]]⟩
          (Config.prefilter { loggingLevel := .verbose }
            [{ logicalName := "syncerror" },
              { logicalName := "a", attributes := [{ schemaName := "X" },
                { schemaName := "VersionNumber" }] }])).2 =
        ((new { loggingLevel := .verbose }).generateWith
          ⟨[.entity [.attributeList (some "\x7b#attr (schemaname)#\x7d")]]⟩
          [{ logicalName := "syncerror" },
            { logicalName := "a", attributes := [{ schemaName := "X" },
              { schemaName := "VersionNumber" }] }]).2 :=
  ⟨rfl, rfl, rfl, by decide, by decide +kernel,
    ((generateWith_prefilter (new { loggingLevel := .verbose })
      (new (Config.unfiltered { loggingLevel := .verbose })) _ _ rfl rfl rfl).2 (by decide)).2⟩

end Generator

end EntityScript
