import EntityScript.Generation.Generator
import EntityScript.Proofs.Generation.RunLaws
import Mathlib.Tactic.SplitIfs

/-!
# The steps of a walk

Which messages a walk records and which texts it expands, for which records and in which order, is
settled before any slug is read: it follows from the job and the template alone. `Job.stepsOf`
lists these steps, and a walk is nothing but the steps performed one after the other until one of
them fails (`Job.nodes_eq_runSteps`, `Job.walk_eq_runSteps`).

A step is a note, the expansion of a piece, or the end that the cancel flag puts to a walk. Facts
about whole walks are proved on the list of steps, where nothing can fail.
-/

namespace EntityScript

namespace Generation

open Metadata (Attribute Entity Scope)
open Template (Node Passage Spelling)

/-! ### Expansions -/

/-- A slug is expanded alike in scopes that give it the same value; what else the scopes hold is not
looked at. -/
theorem expandSlug_congr {s t : Scopes} (h : ∀ w, s.value? w = t.value? w) (w : Spelling) :
    expandSlug s w = expandSlug t w := by
  simp only [expandSlug, h]

/-- Passages are expanded alike in scopes that give every slug the same value. This is the one fact
about expansion that comparisons of two walks need. -/
theorem expandPassages_congr {s t : Scopes} (h : ∀ w, s.value? w = t.value? w)
    (ps : List Passage) : expandPassages s ps = expandPassages t ps := by
  induction ps with
  | nil => rfl
  | cons q ps ih => cases q <;> simp only [expandPassages, ih, expandSlug_congr h]

/-- A slug is expanded without a message on any level but `verbose`, whether or not it is
resolved. -/
theorem messages_expandSlug_of_ne {l : LogLevel} (hl : .verbose ≠ l) (scopes : Scopes)
    (w : Spelling) : (expandSlug scopes w).messages l = [] := by
  rw [expandSlug]
  rcases scopes.value? w with _ | _ | value
  · rfl
  · rfl
  · rw [Run.messages_bind_pure, Run.messages_record_of_ne hl]

/-- Passages are expanded without a message on any level but `verbose`. So expansion has no part in
what a walk tells about records and nodes. -/
theorem messages_expandPassages_of_ne {l : LogLevel} (hl : .verbose ≠ l) (scopes : Scopes)
    (ps : List Passage) : (expandPassages scopes ps).messages l = [] := by
  induction ps with
  | nil => rfl
  | cons q ps ih =>
    cases q with
    | plain ch => rw [expandPassages, Run.messages_bind_pure, ih]
    | slug w =>
      refine Run.messages_bind_eq_nil (messages_expandSlug_of_ne hl scopes w) fun _ => ?_
      rw [Run.messages_bind_pure, ih]

/-! ### Pieces and steps -/

/-- A text of a template at one place of a walk, with the records that its slugs may read from. -/
structure Piece where
  text : String
  currentEntity : Option Entity := none
  currentAttribute : Option Attribute := none

/-- The scopes that are active where the piece is expanded. -/
def Piece.scopes (c : Config) (p : Piece) : Scopes :=
  ⟨p.currentEntity.map (Scope.of · c.languageCode),
    p.currentAttribute.map (Scope.of · c.languageCode)⟩

/-- One step of a walk. -/
inductive Step where
  /-- A message is recorded. -/
  | note (level : LogLevel) (message : String)
  /-- A piece is expanded. -/
  | piece (p : Piece)
  /-- The walk is stopped. -/
  | halt (e : Failure)

/-- The run of a step. -/
def Step.run (c : Config) : Step → Run String
  | note level message => do
    .record level message
    pure ""
  | piece p => expand c (p.scopes c) p.text
  | halt e => .fail e

/-- The run of steps one after the other. -/
def runSteps (c : Config) (steps : List Step) : Run String :=
  .concat (steps.map (Step.run c))

theorem runSteps_nil (c : Config) : runSteps c [] = pure "" := rfl

theorem runSteps_cons (c : Config) (s : Step) (ss : List Step) :
    runSteps c (s :: ss) =
      s.run c >>= fun text => runSteps c ss >>= fun rest => pure (text ++ rest) := rfl

/-- The steps of two lists are performed as one list after the other, and not those of the second if
one of the first fails. -/
theorem runSteps_append (c : Config) (ss ts : List Step) :
    runSteps c (ss ++ ts) =
      runSteps c ss >>= fun text => runSteps c ts >>= fun rest => pure (text ++ rest) := by
  simp only [runSteps, List.map_append, Run.concat_append]

/-- One step is performed as it is by itself: the texts put around it are empty. This is how the
expansion of a literal is read off its steps. -/
theorem runSteps_singleton (c : Config) (s : Step) : runSteps c [s] = s.run c := by
  simp only [runSteps_cons, runSteps_nil, pure_bind, String.append_empty, bind_pure]

/-- A note adds its message and no text, so it can be taken off the front of the steps. Proofs about
the steps of a node begin with this. -/
theorem runSteps_note (c : Config) (level : LogLevel) (message : String) (ss : List Step) :
    runSteps c (.note level message :: ss) =
      Run.record level message >>= fun _ => runSteps c ss := by
  simp only [runSteps_cons, Step.run, bind_assoc, pure_bind, String.empty_append, bind_pure]

/-- Notes of one level add their messages and no text. The properties of an entity are logged this
way, all at once. -/
theorem runSteps_notes (c : Config) (level : LogLevel) (messages : List String) (ss : List Step) :
    runSteps c (messages.map (.note level) ++ ss) =
      Run.recordAll level messages >>= fun _ => runSteps c ss := by
  induction messages with
  | nil => rfl
  | cons m ms ih =>
    rw [List.map_cons, List.cons_append, runSteps_note, ih, ← bind_assoc]
    rfl

/-- A note on the level of information is dropped with all others of that level, whatever else is
kept of the steps. Every node begins with such a note. -/
theorem filter_information_cons {keep : Step → Bool}
    (hkeep : ∀ message, keep (.note .information message) = false) (message : String)
    (ss : List Step) : (.note .information message :: ss).filter keep = ss.filter keep :=
  List.filter_cons_of_neg (by simp only [hkeep, Bool.false_eq_true, not_false_eq_true])

namespace Job

/-! ### The steps of the parts of a walk -/

/-- The messages on the properties of an entity that is entered. -/
def propertyMessages (job : Job) (e : Entity) : List String :=
  (Scope.of e job.config.languageCode).values.map fun (name, value) =>
    "Property Name: " ++ name ++ ", Property Value: " ++ value

/-- The steps for an entity that the configuration includes. -/
def stepsEntering (job : Job) (body : Entity → List Step) (e : Entity) : List Step :=
  .note .information ("Processing entity: " ++ e.logicalName) ::
    ((job.propertyMessages e).map (.note .verbose) ++ body e)

/-- The steps for one entity. -/
def stepsVisiting (job : Job) (body : Entity → List Step) (e : Entity) : List Step :=
  if job.cancelled then [.halt (.cancelled e.logicalName)]
  else if job.config.filtersEntity e.logicalName then
    [.note .information ("Skipping filtered entity: " ++ e.logicalName)]
  else if !job.config.entityTypes.includes e then
    [.note .information ("Skipping entity outside of " ++ job.config.entityTypes.name ++
      " scope: " ++ e.logicalName)]
  else job.stepsEntering body e

/-- The steps for the attributes of an entity. -/
def stepsListing (job : Job) (fragment : String) (e : Entity) (as : List Attribute) : List Step :=
  (as.filter job.config.includesAttribute).map fun a => .piece ⟨fragment, some e, some a⟩

/-- The steps of an attribute list. -/
def stepsOfList (job : Job) (current : Option Entity) (fragment : Option String) : List Step :=
  match current, fragment with
  | none, _ => [.note .information "Skipping attribute_list outside of an entity"]
  | some _, none => []
  | some e, some fragment => job.stepsListing fragment e e.attributes

mutual

/-- The steps of a node, given the current entity. -/
def stepsOf (job : Job) (current : Option Entity) (n : Node) : List Step :=
  .note .information ("Process node: " ++ n.name) ::
    match n with
    | .literal text => [.piece ⟨text, current, none⟩]
    | .entity children =>
      job.entities.flatMap (job.stepsVisiting fun e => job.stepsOfAll (some e) children)
    | .attributeList fragment => job.stepsOfList current fragment
    | .container children => job.stepsOfAll current children
    | .ignored _ => []

/-- The steps of nodes one after the other. -/
def stepsOfAll (job : Job) (current : Option Entity) : List Node → List Step
  | [] => []
  | n :: ns => job.stepsOf current n ++ job.stepsOfAll current ns

end

theorem stepsOfAll_singleton (job : Job) (current : Option Entity) (n : Node) :
    job.stepsOfAll current [n] = job.stepsOf current n :=
  List.append_nil _

/-- The steps of two lists of nodes are those of one list and then of the other. The current entity
is the same for both. -/
theorem stepsOfAll_append (job : Job) (current : Option Entity) (ns ms : List Node) :
    job.stepsOfAll current (ns ++ ms) = job.stepsOfAll current ns ++ job.stepsOfAll current ms := by
  induction ns with
  | nil => rfl
  | cons n ns ih => rw [List.cons_append, stepsOfAll, stepsOfAll, ih, List.append_assoc]

/-! ### A walk performs its steps -/

/-- The scope of the current entity. -/
def scopeOf (job : Job) (current : Option Entity) : Option (Scope Entity) :=
  current.map (Scope.of · job.config.languageCode)

section

variable {job : Job} {body : Scope Entity → Run String} {steps : Entity → List Step}

/-- An entity is visited by performing its steps, if the same holds of the body for each entity. The
four cases are those of the visit: the flag, the rules, the type, and the entity itself. -/
theorem visit_eq_runSteps
    (h : ∀ e, body (Scope.of e job.config.languageCode) = runSteps job.config (steps e))
    (e : Entity) : job.visit body e = runSteps job.config (job.stepsVisiting steps e) := by
  simp only [visit, stepsVisiting]
  split_ifs
  · rw [runSteps_singleton]; rfl
  · rw [runSteps_singleton]; rfl
  · rw [runSteps_singleton]; rfl
  · rw [stepsEntering, runSteps_note, runSteps_notes, ← h]
    rfl

/-- Entities are visited by performing the steps of one after the other; the induction is on the
list. -/
theorem visitAll_eq_runSteps
    (h : ∀ e, body (Scope.of e job.config.languageCode) = runSteps job.config (steps e))
    (es : List Entity) :
    job.visitAll body es = runSteps job.config (es.flatMap (job.stepsVisiting steps)) := by
  induction es with
  | nil => rfl
  | cons e es ih => rw [visitAll, List.flatMap_cons, runSteps_append, ← visit_eq_runSteps h, ← ih]

end

/-- The fragment is expanded for the attributes that are included, one step for each of them. The
walk decides this for one attribute after the other, the steps by a filter beforehand. -/
theorem listAttributes_eq_runSteps (job : Job) (fragment : String) (e : Entity)
    (as : List Attribute) :
    job.listAttributes fragment (Scope.of e job.config.languageCode) as =
      runSteps job.config (job.stepsListing fragment e as) := by
  induction as with
  | nil => rfl
  | cons a as ih =>
    rw [listAttributes]
    split_ifs with h
    · have hsteps : job.stepsListing fragment e (a :: as) =
          .piece ⟨fragment, some e, some a⟩ :: job.stepsListing fragment e as := by
        simp only [stepsListing, List.filter_cons_of_pos h, List.map_cons]
      rw [ih, hsteps, runSteps_cons]
      rfl
    · simp only [ih, stepsListing, List.filter_cons_of_neg h]

/-- An attribute list is processed by performing its steps: one note outside of an entity, nothing
without a fragment, and else one step for each attribute. -/
theorem attributeList_eq_runSteps (job : Job) (current : Option Entity)
    (fragment : Option String) :
    job.attributeList (job.scopeOf current) fragment =
      runSteps job.config (job.stepsOfList current fragment) := by
  cases current with
  | none => rw [stepsOfList, runSteps_singleton]; rfl
  | some e =>
    cases fragment with
    | none => rfl
    | some fragment => exact job.listAttributes_eq_runSteps fragment e e.attributes

mutual

/-- A node is processed by performing its steps. There is one case for each kind of node, and each
begins with the note that tells of it. -/
theorem node_eq_runSteps (job : Job) (current : Option Entity) : ∀ n : Node,
    job.node (job.scopeOf current) n = runSteps job.config (job.stepsOf current n)
  | .literal text => by
    rw [node, stepsOf, runSteps_note, runSteps_singleton]
    rfl
  | .entity children => by
    -- The induction is on nodes; the entities are all of the job's, at every depth.
    rw [node, stepsOf, runSteps_note,
      visitAll_eq_runSteps fun e => job.nodes_eq_runSteps (some e) children]
  | .attributeList fragment => by
    rw [node, stepsOf, runSteps_note, attributeList_eq_runSteps]
  | .container children => by
    rw [node, stepsOf, runSteps_note, job.nodes_eq_runSteps current children]
  | .ignored name => by
    rw [node, stepsOf, runSteps_note]
    rfl

theorem nodes_eq_runSteps (job : Job) (current : Option Entity) : ∀ ns : List Node,
    job.nodes (job.scopeOf current) ns = runSteps job.config (job.stepsOfAll current ns)
  | [] => rfl
  | n :: ns => by
    rw [nodes, stepsOfAll, runSteps_append, job.node_eq_runSteps current n,
      job.nodes_eq_runSteps current ns]

end

/-- **A walk performs its steps**, one after the other until one of them fails. From here on walks
are lists of steps. -/
theorem walk_eq_runSteps (job : Job) (d : Template.Document) :
    job.walk d = runSteps job.config (job.stepsOfAll none d.nodes) :=
  job.nodes_eq_runSteps none d.nodes

/-! ### Steps of entity nodes -/

section

variable {job : Job} {keep : Step → Bool}

/-- What is kept of the steps for one entity, notes on the level of information apart: nothing,
unless the entity is included. -/
theorem filter_stepsVisiting (h : job.cancelled = false)
    (hkeep : ∀ message, keep (.note .information message) = false) (body : Entity → List Step)
    (e : Entity) :
    (job.stepsVisiting body e).filter keep =
      if job.config.includesEntity e then
        ((job.propertyMessages e).map (Step.note .verbose) ++ body e).filter keep
      else [] := by
  cases hf : job.config.filtersEntity e.logicalName <;>
    cases ht : job.config.entityTypes.includes e <;>
    simp [stepsVisiting, stepsEntering, Config.includesEntity, h, hf, ht, hkeep]

/-- **What an entity node does besides telling what it does**: while the flag is down, steps other
than notes on the level of information come from the entities that are included, in their order. The
induction is on the entities. -/
theorem filter_flatMap_stepsVisiting (h : job.cancelled = false)
    (hkeep : ∀ message, keep (.note .information message) = false) (body : Entity → List Step)
    (es : List Entity) :
    (es.flatMap (job.stepsVisiting body)).filter keep =
      (es.filter job.config.includesEntity).flatMap fun e =>
        ((job.propertyMessages e).map (Step.note .verbose) ++ body e).filter keep := by
  induction es with
  | nil => rfl
  | cons e es ih =>
    rw [List.flatMap_cons, List.filter_append, ih, filter_stepsVisiting h hkeep, List.filter_cons]
    split_ifs
    · rw [List.flatMap_cons]
    · rw [List.nil_append]

end

/-! ### The cancel flag -/

/-- The job with that cancel flag, or without one. -/
def withFlag (job : Job) (flag : Option Bool) : Job :=
  { job with flag }

section

variable {job : Job} {flag : Option Bool}

mutual

/-- A flag that is not up is as good as none: the steps of a node depend on nothing but whether
there is a flag and it is up, which is what every entity node asks. -/
theorem stepsOf_withFlag (h : (job.withFlag flag).cancelled = job.cancelled)
    (current : Option Entity) :
    ∀ n : Node, (job.withFlag flag).stepsOf current n = job.stepsOf current n
  | .literal text => rfl
  | .entity children => by
    have hbody : (fun e => (job.withFlag flag).stepsOfAll (some e) children) =
        fun e => job.stepsOfAll (some e) children := by
      funext e
      exact stepsOfAll_withFlag h (some e) children
    -- A visit reads the flag only to see whether the job is cancelled.
    have hvisit : ∀ body, (job.withFlag flag).stepsVisiting body = job.stepsVisiting body := by
      intro body
      funext e
      rw [stepsVisiting, stepsVisiting, h]
      rfl
    rw [stepsOf, stepsOf, hbody, hvisit]
    rfl
  | .attributeList fragment => rfl
  | .container children => by
    rw [stepsOf, stepsOf, stepsOfAll_withFlag h current children]
  | .ignored name => rfl

theorem stepsOfAll_withFlag (h : (job.withFlag flag).cancelled = job.cancelled)
    (current : Option Entity) :
    ∀ ns : List Node, (job.withFlag flag).stepsOfAll current ns = job.stepsOfAll current ns
  | [] => rfl
  | n :: ns => by
    rw [stepsOfAll, stepsOfAll, stepsOf_withFlag h current n, stepsOfAll_withFlag h current ns]

end

/-- **A walk asks its flag one question**, whether it is there and up. So two generators whose flags
answer alike have the same runs. -/
theorem walk_withFlag (h : (job.withFlag flag).cancelled = job.cancelled)
    (d : Template.Document) : (job.withFlag flag).walk d = job.walk d := by
  rw [walk_eq_runSteps, walk_eq_runSteps, stepsOfAll_withFlag h none d.nodes]
  rfl

end

end Job

end Generation

/-! ### Runs of a generator -/

namespace Generator

open Metadata (Entity)

theorem cancelled_job (g : Generator) (es : List Entity) : (g.job es).cancelled = g.cancelled :=
  rfl

/-- A result carries the output and the log that the generator has after the run; a failure carries
neither. -/
theorem generateWith_snd (g : Generator) (d : Template.Document) (es : List Entity) :
    (g.generateWith d es).2 = (running (g.job es) d).outcome.map fun output =>
      ⟨output, (g.generateWith d es).1.log.text⟩ := rfl

theorem map_output_generateWith (g : Generator) (d : Template.Document) (es : List Entity) :
    (g.generateWith d es).2.map (·.output) = (running (g.job es) d).outcome := by
  rw [generateWith_snd]
  cases (running (g.job es) d).outcome <;> rfl

/-- The log after a run holds what the run records, and nothing from before: it starts afresh, under
the heading of its level. -/
theorem log_generateWith (g : Generator) (d : Template.Document) (es : List Entity) :
    (g.generateWith d es).1.log =
      (Log.start g.config.loggingLevel).recordAll (running (g.job es) d).records := rfl

/-- Telling when it starts and when it is complete does not change how a run ends. The same holds of
recording its failure. -/
theorem outcome_running (job : Generation.Job) (d : Template.Document) :
    (running job d).outcome = (job.walk d).outcome := by
  simp only [running, Run.outcome_bind, Run.record, Run.recordFailure]
  cases h : (job.walk d).outcome with
  | error e => rfl
  | ok output => simp only [h]; rfl

end Generator

end EntityScript
