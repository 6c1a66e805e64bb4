import EntityScript.Proofs.Generation.Expanding
import EntityScript.Proofs.Generation.LogProjection
import EntityScript.Proofs.Generation.Prefiltering
import Mathlib.Data.List.Forall2
import Mathlib.Data.List.TakeWhile

/-!
# The log of substitutions

A log on the level `verbose` tells what a run puts in for slugs. What there is to tell is listed
without a run: `Document.visits` goes through the template and lists the entities that are entered
and the texts that are expanded, each with the records that its slugs may read from, and
`Piece.substitutions` lists the slugs of one text that are replaced, each with what is put in.

The list of visits knows nothing of failures. A run comes to its visits in order, up to the first
one that fails, and in that one it still replaces the slugs that stand before the unknown one:
`reached` cuts the list of visits, `Piece.substitutions` that of the slugs. So the messages of a
run that fails are those of the substitutions before the failure, also where the text that they
were made in is lost.

* **Texts**: the messages of an expansion are those of its substitutions, and what it gives is the
  text with these substitutions spliced in (`tells_expand`).
* **Walks**: a visit is told as it is made (`Visit.tells_run`), and so is a list of visits
  (`tells_runSteps`).

**Main statement**: whether its template is given or has to be loaded, a call records on the level
`verbose` exactly the messages of the visits that it comes to
(`Generator.verbose_log_tells_substitutions`).
-/

namespace EntityScript

open Metadata (Entity HasProperties Scope)
open Template (Document Node Passage Slug Splices passages scan slugsFrom)

namespace Generation

/-! ### Substitutions in one text -/

namespace Piece

/-- The text after the slugs of the project are replaced. -/
def projectText (c : Config) (p : Piece) : String :=
  String.ofList (replaceProjectSlugs c p.text.toList)

/-- The first slug that has a record to read from without a property of its name. -/
def unknownSlug? (c : Config) (p : Piece) : Option Slug :=
  (scan (p.projectText c)).find? (p.IsUnknown c ·)

/-- The slugs that stand before the first unknown one. -/
def beforeUnknown (c : Config) (p : Piece) (gs : List Slug) : List Slug :=
  gs.takeWhile (¬ p.IsUnknown c ·)

/-- The slugs that are replaced before an unknown slug ends the expansion, each with what is put
in. -/
def substitutions (c : Config) (p : Piece) : List (Slug × String) :=
  p.edits c (p.beforeUnknown c (scan (p.projectText c)))

variable {c : Config} {p : Piece}

theorem beforeUnknown_cons_of_isUnknown {g : Slug} (h : p.IsUnknown c g) (gs : List Slug) :
    p.beforeUnknown c (g :: gs) = [] :=
  List.takeWhile_cons_of_neg (by simpa using h)

theorem beforeUnknown_cons_of_not_isUnknown {g : Slug} (h : ¬ p.IsUnknown c g) (gs : List Slug) :
    p.beforeUnknown c (g :: gs) = g :: p.beforeUnknown c gs :=
  List.takeWhile_cons_of_pos (by simpa using h)

theorem beforeUnknown_eq_self {gs : List Slug} (h : ∀ g ∈ gs, ¬ p.IsUnknown c g) :
    p.beforeUnknown c gs = gs :=
  List.takeWhile_eq_self_iff.mpr fun g hg => decide_eq_true (h g hg)

/-- **Without an unknown slug** the expansion is the text with the substitutions spliced in. What is
spliced in is listed without an expansion, so this says where each insertion ends up. -/
theorem exists_expansion_of_unknownSlug?_eq_none (h : p.unknownSlug? c = none) :
    ∃ output, p.expansion c = .ok output ∧
      Splices 0 (p.projectText c).toList (p.substitutions c) output.toList := by
  have hknown : ∀ g ∈ slugsFrom 0 (passages (p.projectText c).toList), ¬ p.IsUnknown c g := by
    simpa [unknownSlug?, scan] using h
  obtain ⟨texts, hread, hsplices⟩ := exists_splices hknown
  rw [Template.flatMap_toList_passages] at hsplices
  refine ⟨String.ofList texts.flatten, ?_, ?_⟩
  · rw [projectText, String.toList_ofList] at hread
    rw [expansion, hread]
    rfl
  · rw [substitutions, scan, beforeUnknown_eq_self hknown,
      String.toList_ofList (l := texts.flatten)]
    exact hsplices

/-- **The first unknown slug** is the failure of the expansion, whatever stands behind it. The
failure has the slug as it is written. -/
theorem expansion_of_unknownSlug?_eq_some {g : Slug} (h : p.unknownSlug? c = some g) :
    p.expansion c = .error (.slugResolution g.spelling) := by
  obtain ⟨hg, before, after, hslugs, hbefore⟩ := List.find?_eq_some_iff_append.mp h
  have hread := mapM_passageReading_of_isUnknown (c := c) (p := p) hslugs
    (fun g' hg' => by simpa using hbefore g' hg') (by simpa using hg)
  rw [projectText, String.toList_ofList] at hread
  rw [expansion, hread]
  rfl

/-- A slug without a record is passed over, and an unknown slug ends the expansion. -/
example :
    let p : Piece :=
      ⟨"\x7b#attr (x)#\x7d\x7b#ent upper(SchemaName)#\x7d\x7b#ent (y)#\x7d\x7b#ent (id)#\x7d",
        some { schemaName := "Contact" }, none⟩
    (p.substitutions {}).map (fun (g, inserted) => (g.raw, g.property, inserted)) =
        [("\x7b#ent upper(SchemaName)#\x7d", "schemaname", "CONTACT")] ∧
      (p.unknownSlug? {}).map (·.raw) = some "\x7b#ent (y)#\x7d" := by
  decide +kernel

end Piece

/-! ### Visits -/

/-- What a walk does besides telling which nodes and entities it passes. -/
inductive Visit where
  /-- An entity is entered. -/
  | entry (e : Entity)
  /-- A text is expanded. -/
  | text (p : Piece)
  /-- The run ends, whatever was to come. -/
  | halt (e : Failure)

namespace Visit

/-- Why a run does not get past the visit, if it does not. -/
def failure? (c : Config) : Visit → Option Failure
  | entry _ => none
  | text p => (p.unknownSlug? c).map fun g => .slugResolution g.spelling
  | halt e => some e

/-- The messages of the visit: for an entity, one for each property of the table; for a text, one
for each slug that is replaced. -/
def messages (c : Config) : Visit → List String
  | entry e => (HasProperties.table (ρ := Entity)).map fun property =>
    "Property Name: " ++ property.name ++ ", Property Value: " ++
      (property.value e).render c.languageCode
  | text p => (p.substitutions c).map fun (g, inserted) =>
    "Match: " ++ g.raw ++ ", Property Name: " ++ g.property ++ ", Property Value: " ++ inserted
  | halt _ => []

/-- What the visit adds to the output. -/
def Gives (c : Config) : Visit → String → Prop
  | entry _, output => output = ""
  | text p, output => Splices 0 (p.projectText c).toList (p.substitutions c) output.toList
  | halt _, _ => False

end Visit

/-- The visits that a run comes to: all up to the first one that it does not get past. -/
def reached (c : Config) : List Visit → List Visit
  | [] => []
  | v :: vs => if (v.failure? c).isSome then [v] else v :: reached c vs

end Generation

namespace Template

open Generation

mutual

/-- The visits of a node, given the current entity. With the flag up there is a halt before every
entity, of which a run comes to the first. -/
def Node.visits (job : Job) (current : Option Entity) : Node → List Visit
  | .literal text => [.text ⟨text, current, none⟩]
  | .entity children =>
    if job.cancelled then job.entities.map fun e => .halt (.cancelled e.logicalName)
    else (keptEntities job.config job.entities).flatMap fun e =>
      .entry e :: Node.visitsOfAll job (some e) children
  | .attributeList fragment =>
    ((Node.attributeList fragment).pieces job.config job.entities current).map .text
  | .container children => Node.visitsOfAll job current children
  | .ignored _ => []

/-- The visits of nodes in their order. -/
def Node.visitsOfAll (job : Job) (current : Option Entity) : List Node → List Visit
  | [] => []
  | n :: ns => n.visits job current ++ Node.visitsOfAll job current ns

end

/-- The visits of a template, which stands outside every entity. -/
def Document.visits (job : Job) (d : Document) : List Visit :=
  Node.visitsOfAll job none d.nodes

end Template

namespace Generation

/-! ### Runs that tell their visits -/

/-- The run records the messages of the visits that it comes to, and ends as the first one that it
does not get past, or with what the visits give. -/
structure Tells (c : Config) (r : Run String) (vs : List Visit) : Prop where
  messages_eq : r.messages .verbose = (reached c vs).flatMap (Visit.messages c)
  outcome_of_failure : ∀ e, vs.findSome? (Visit.failure? c) = some e → r.outcome = .error e
  outcome_of_no_failure : vs.findSome? (Visit.failure? c) = none →
    ∃ texts, List.Forall₂ (Visit.Gives c) vs texts ∧ r.outcome = .ok (String.join texts)

namespace Tells

variable {c : Config} {r : Run String} {v : Visit} {vs : List Visit}

/-- One visit that a run gets past: its messages are recorded, and the run gives what the visit
gives. -/
theorem of_gives {output : String} (hmessages : r.messages .verbose = v.messages c)
    (hfailure : v.failure? c = none) (hgives : v.Gives c output) (h : r.outcome = .ok output) :
    Tells c r [v] where
  messages_eq := by simp [reached, hfailure, hmessages]
  outcome_of_failure e he := by simp [hfailure] at he
  outcome_of_no_failure _ := ⟨[output], .cons hgives .nil, by
    rw [h, String.join_cons, String.join_nil, String.append_empty]⟩

/-- One visit that a run does not get past: the messages before the failure are recorded all the
same. -/
theorem of_failure {e : Failure} (hmessages : r.messages .verbose = v.messages c)
    (hfailure : v.failure? c = some e) (h : r.outcome = .error e) : Tells c r [v] where
  messages_eq := by simp [reached, hfailure, hmessages]
  outcome_of_failure e' he := by
    obtain rfl : e = e' := by simpa [hfailure] using he
    exact h
  outcome_of_no_failure hnone := by simp [hfailure] at hnone

/-- **One visit more**: what was told of the others stands behind it, or is not told at all if the
run ends in the first visit. This is the step by which a list of visits is told. -/
theorem cons {s : Run String} (hv : Tells c r [v]) (hvs : Tells c s vs) :
    Tells c (r >>= fun text => s >>= fun rest => pure (text ++ rest)) (v :: vs) := by
  cases hfailure : v.failure? c with
  | some e =>
    -- The run ends in the first visit, so nothing of the others is told.
    have houtcome : r.outcome = .error e :=
      hv.outcome_of_failure e (by simp [hfailure])
    refine ⟨?_, fun e' he => ?_, fun hnone => by simp [hfailure] at hnone⟩
    · rw [Run.messages_bind_of_error houtcome, hv.messages_eq]
      simp [reached, hfailure]
    · obtain rfl : e = e' := by simpa [hfailure] using he
      rw [Run.bind_of_error houtcome]
  | none =>
    -- The run gets past the first visit, and ends as the others do.
    obtain ⟨texts, hgives, houtcome⟩ := hv.outcome_of_no_failure (by simp [hfailure])
    have hfirst : (v :: vs).findSome? (Visit.failure? c) = vs.findSome? (Visit.failure? c) := by
      rw [List.findSome?_cons, hfailure]
    refine ⟨?_, fun e he => ?_, fun hnone => ?_⟩
    · rw [Run.messages_bind_of_ok houtcome, hv.messages_eq, Run.messages_bind_pure,
        hvs.messages_eq]
      simp [reached, hfailure]
    · rw [hfirst] at he
      simp only [Run.outcome_bind, houtcome, hvs.outcome_of_failure e he]
      rfl
    · rw [hfirst] at hnone
      obtain ⟨rests, hrests, hs⟩ := hvs.outcome_of_no_failure hnone
      refine ⟨texts ++ rests, List.rel_append hgives hrests, ?_⟩
      simp only [Run.outcome_bind, houtcome, hs, String.join_append]
      rfl

theorem halt (c : Config) (e : Failure) : Tells c (.fail e) [.halt e] :=
  of_failure rfl rfl rfl

/-- What else is recorded on other levels is not told, so runs that agree on the level `verbose` and
in their outcome tell the same visits. -/
theorem congr {s : Run String} (h : Tells c r vs)
    (hmessages : s.messages .verbose = r.messages .verbose) (houtcome : s.outcome = r.outcome) :
    Tells c s vs where
  messages_eq := hmessages.trans h.messages_eq
  outcome_of_failure e he := houtcome.trans (h.outcome_of_failure e he)
  outcome_of_no_failure hnone := by
    rw [houtcome]
    exact h.outcome_of_no_failure hnone

end Tells

/-! ### Visits are told as they are made -/

/-- The messages of an expansion, passage by passage: one for each slug that is replaced before the
first unknown one. The induction is on the passages, and `n` is where they begin in the text. -/
theorem messages_expandPassages (c : Config) (p : Piece) (n : Nat) (ps : List Passage) :
    (expandPassages (p.scopes c) ps).messages .verbose =
      (p.edits c (p.beforeUnknown c (slugsFrom n ps))).map fun (g, inserted) =>
        matchMessage g.spelling inserted := by
  induction ps generalizing n with
  | nil => rfl
  | cons q ps ih =>
    cases q with
    | plain ch =>
      rw [expandPassages, Run.messages_bind_pure]
      exact ih (n + ch.utf8Size)
    | slug w =>
      rw [expandPassages, slugsFrom]
      rcases hinsertion : p.insertion? c w with _ | _ | text
      · -- The slug is copied, without a message.
        have hslug : expandSlug (p.scopes c) w = pure w.toList := by
          simp only [expandSlug, value?_scopes, hinsertion]
        have hknown : ¬ p.IsUnknown c ⟨w, n⟩ := by simp [Piece.IsUnknown, hinsertion]
        rw [hslug, pure_bind, Run.messages_bind_pure, ih (n + Text.byteLength w.toList),
          Piece.beforeUnknown_cons_of_not_isUnknown hknown,
          Piece.edits_cons_of_inactive hinsertion]
      · -- The slug is the first unknown one: no message is made of it or after it.
        have hslug : expandSlug (p.scopes c) w = .fail (.slugResolution w) := by
          simp only [expandSlug, value?_scopes, hinsertion]
        have hunknown : p.IsUnknown c ⟨w, n⟩ := hinsertion
        rw [hslug, Run.messages_bind_of_error rfl,
          Piece.beforeUnknown_cons_of_isUnknown hunknown]
        rfl
      · have hslug : expandSlug (p.scopes c) w =
            Run.record .verbose (matchMessage w text) >>= fun _ => pure text.toList := by
          simp only [expandSlug, value?_scopes, hinsertion]
        have hknown : ¬ p.IsUnknown c ⟨w, n⟩ := by simp [Piece.IsUnknown, hinsertion]
        rw [hslug, bind_assoc, Run.messages_bind_of_ok rfl, Run.messages_record, pure_bind,
          Run.messages_bind_pure, ih (n + Text.byteLength w.toList),
          Piece.beforeUnknown_cons_of_not_isUnknown hknown, Piece.edits_cons_of_known hinsertion]
        rfl

/-- **An expansion tells its substitutions**, those before an unknown slug if there is one, and ends
as the visit of its text does. -/
theorem tells_expand (c : Config) (p : Piece) : Tells c ((Step.piece p).run c) [.text p] := by
  have hmessages : ((Step.piece p).run c).messages .verbose = (Visit.text p).messages c := by
    rw [Step.run, expand, Run.messages_bind_pure, messages_expandPassages c p 0, Visit.messages,
      Piece.substitutions, scan, Piece.projectText, String.toList_ofList]
    rfl
  cases hunknown : p.unknownSlug? c with
  | none =>
    obtain ⟨output, houtput, hsplices⟩ :=
      Piece.exists_expansion_of_unknownSlug?_eq_none hunknown
    exact .of_gives hmessages (by rw [Visit.failure?, hunknown]; rfl) hsplices
      ((outcome_run_piece c p).trans houtput)
  | some g =>
    exact .of_failure hmessages (by rw [Visit.failure?, hunknown]; rfl)
      ((outcome_run_piece c p).trans (Piece.expansion_of_unknownSlug?_eq_some hunknown))

/-- The steps of a visit. -/
def Visit.steps (job : Job) : Visit → List Step
  | entry e => (job.propertyMessages e).map (.note .verbose)
  | text p => [.piece p]
  | halt e => [.halt e]

/-- Each of the three kinds of visits is told by its steps: the properties of an entity, the
substitutions of a text, and nothing of a halt. -/
theorem tells_visit (job : Job) (v : Visit) :
    Tells job.config (runSteps job.config (v.steps job)) [v] := by
  cases v with
  | entry e =>
    have hmessages : job.propertyMessages e = (Visit.entry e).messages job.config := by
      rw [Job.propertyMessages, Scope.of, Metadata.properties, List.map_map]
      rfl
    have hrun : runSteps job.config ((Visit.entry e).steps job) =
        Run.recordAll .verbose (job.propertyMessages e) >>= fun _ => pure "" := by
      rw [Visit.steps, ← List.append_nil (List.map _ _), runSteps_notes, runSteps_nil]
    exact .of_gives (by rw [hrun, Run.messages_bind_pure, Run.messages_recordAll, hmessages])
      rfl rfl (by rw [hrun]; rfl)
  | text p =>
    rw [Visit.steps, runSteps_singleton]
    exact tells_expand job.config p
  | halt e =>
    rw [Visit.steps, runSteps_singleton]
    exact .halt job.config e

/-- **A list of visits** is told up to the first one that the run does not get past. The induction
is on the visits, one of which is one more by `Tells.cons`. -/
theorem tells_runSteps (job : Job) (vs : List Visit) :
    Tells job.config (runSteps job.config (vs.flatMap (Visit.steps job))) vs := by
  induction vs with
  | nil => exact ⟨rfl, fun e he => by simp at he, fun _ => ⟨[], .nil, rfl⟩⟩
  | cons v vs ih =>
    rw [List.flatMap_cons, runSteps_append]
    exact (tells_visit job v).cons ih

namespace Job

/-- With the flag up, an entity node halts before every entity. A run comes to the first of these
halts and ends there. -/
theorem filter_flatMap_stepsVisiting_of_cancelled {job : Job} (h : job.cancelled = true)
    (body : Entity → List Step) (es : List Entity) :
    (es.flatMap (job.stepsVisiting body)).filter Step.isAudible =
      (es.map fun e => Visit.halt (.cancelled e.logicalName)).flatMap (Visit.steps job) := by
  have hvisit : job.stepsVisiting body = fun e => [.halt (.cancelled e.logicalName)] := by
    funext e
    rw [stepsVisiting, if_pos h]
  rw [List.flatMap_map, hvisit]
  refine List.filter_eq_self.mpr fun s hs => ?_
  obtain ⟨e, -, hs⟩ := List.mem_flatMap.mp hs
  obtain rfl := List.mem_singleton.mp hs
  rfl

/-- An attribute list expands its texts, or tells at most that it is passed over, which is a note on
the level of information. -/
theorem filter_stepsOfList_eq_visits (job : Job) (current : Option Entity)
    (fragment : Option String) :
    (job.stepsOfList current fragment).filter Step.isAudible =
      ((Node.attributeList fragment).visits job current).flatMap (Visit.steps job) := by
  cases current with
  | none => rfl
  | some e =>
    rw [stepsOfList_eq_pieces, Node.visits, List.flatMap_map, List.map_eq_flatMap]
    refine List.filter_eq_self.mpr fun s hs => ?_
    obtain ⟨p, -, hs⟩ := List.mem_flatMap.mp hs
    obtain rfl := List.mem_singleton.mp hs
    rfl

mutual

/-- Notes on the level of information apart, the steps of a node are those of its visits. So the
visits, which are found without a run, list everything that a run does. -/
theorem filter_stepsOf_eq_visits (job : Job) (current : Option Entity) : ∀ n : Node,
    (job.stepsOf current n).filter Step.isAudible =
      (n.visits job current).flatMap (Visit.steps job)
  | .literal text => rfl
  | .entity children => by
    have hnotes : ∀ messages : List String, (messages.map (Step.note .verbose)).filter
        Step.isAudible = messages.map (Step.note .verbose) := by simp [Step.isAudible]
    rw [stepsOf, filter_information_cons fun _ => rfl, Node.visits]
    cases hflag : job.cancelled with
    | true =>
      rw [filter_flatMap_stepsVisiting_of_cancelled hflag, if_pos rfl]
    | false =>
      -- Of the entities those are left that are kept, each with its notes before its children.
      rw [filter_flatMap_stepsVisiting hflag fun _ => rfl, if_neg Bool.false_ne_true,
        List.flatMap_assoc]
      simp only [keptEntities, ← Config.includesEntity_eq, List.filter_append, hnotes,
        filter_stepsOfAll_eq_visits job _ children, List.flatMap_cons, Visit.steps]
  | .attributeList fragment => by
    rw [stepsOf, filter_information_cons fun _ => rfl, filter_stepsOfList_eq_visits]
  | .container children => by
    rw [stepsOf, filter_information_cons fun _ => rfl, Node.visits,
      filter_stepsOfAll_eq_visits job current children]
  | .ignored name => rfl

/-- Notes on the level of information apart, the steps of nodes are those of their visits. The lists
are divided after the first node on both sides. -/
theorem filter_stepsOfAll_eq_visits (job : Job) (current : Option Entity) : ∀ ns : List Node,
    (job.stepsOfAll current ns).filter Step.isAudible =
      (Node.visitsOfAll job current ns).flatMap (Visit.steps job)
  | [] => rfl
  | n :: ns => by
    rw [stepsOfAll, List.filter_append, Node.visitsOfAll, List.flatMap_append,
      filter_stepsOf_eq_visits job current n, filter_stepsOfAll_eq_visits job current ns]

end

/-- A walk tells the visits of its template: dropping notes on the level of information changes
neither the messages that count here nor the outcome. -/
theorem tells_walk (job : Job) (d : Document) : Tells job.config (job.walk d) (d.visits job) := by
  -- The steps of the visits are those of the walk, without what is noted for information.
  have hsteps := tells_runSteps job (d.visits job)
  rw [Document.visits, ← filter_stepsOfAll_eq_visits] at hsteps
  have hwithout := without_runSteps_filter job.config (job.stepsOfAll none d.nodes)
  rw [walk_eq_runSteps]
  refine hsteps.congr ?_ (congrArg Run.outcome hwithout).symm
  rw [← Run.messages_without_of_ne (by decide : LogLevel.verbose ≠ .information), ← hwithout,
    Run.messages_without_of_ne (by decide)]

end Job

end Generation

/-! ### Runs of a generator -/

namespace Generator

open Generation

/-- What is recorded before and after the walk is not told. These records are on the levels of
information and of exceptions. -/
theorem tells_running (job : Job) (d : Document) :
    Tells job.config (running job d) (d.visits job) := by
  refine (job.tells_walk d).congr ?_ (outcome_running job d)
  rw [running, Run.messages_bind_of_ok rfl, Run.messages_record_of_ne (by decide), List.nil_append]
  cases h : (job.walk d).outcome with
  | error e =>
    rw [Run.messages_bind_of_error (e := e) (by rw [Run.outcome_recordFailure, h]),
      Run.messages_recordFailure (by decide)]
  | ok output =>
    rw [Run.messages_bind_of_ok (a := output) (by rw [Run.outcome_recordFailure, h]),
      Run.messages_recordFailure (by decide), Run.messages_bind_pure,
      Run.messages_record_of_ne (by decide), List.append_nil]

/-- The visits of a call that loads its template first: it ends at once if the template cannot be
had. -/
def visitsLoading (g : Generator) (content : Except FileError String) (es : List Entity) :
    List Visit :=
  match Document.ofFile g.config.scriptTemplate content with
  | .ok d => d.visits (g.job es)
  | .error e => [.halt e]

/-- A call that loads its template tells the visits of that template, and nothing if there is
none. -/
theorem tells_loading_running (g : Generator) (content : Except FileError String)
    (es : List Entity) :
    Tells g.config (loading g.config.scriptTemplate content >>= running (g.job es))
      (g.visitsLoading content es) := by
  rw [visitsLoading]
  have hmessages : (loading g.config.scriptTemplate content).messages .verbose = [] := by
    rw [loading, Run.messages_bind_of_ok rfl, Run.messages_record_of_ne (by decide),
      Run.messages_recordFailure (by decide)]
    rfl
  have houtcome : (loading g.config.scriptTemplate content).outcome =
      Document.ofFile g.config.scriptTemplate content := by
    rw [loading, Run.outcome_bind]
    exact Run.outcome_recordFailure _
  -- Without a template the call ends in the halt that stands for the failure.
  cases hfile : Document.ofFile g.config.scriptTemplate content with
  | error e =>
    rw [hfile] at houtcome
    refine (Tells.halt g.config e).congr ?_ (by rw [Run.bind_of_error houtcome]; rfl)
    rw [Run.messages_bind_of_error houtcome, hmessages]
    rfl
  | ok d =>
    rw [hfile] at houtcome
    refine (tells_running (g.job es) d).congr ?_ (by rw [Run.bind_of_ok houtcome])
    rw [Run.messages_bind_of_ok houtcome, hmessages, List.nil_append]

/-- A call that makes the records of the run `r` tells the visits that it comes to, and the
substitutions that it tells are those of its output. -/
structure LogsVisits (g : Generator) (vs : List Visit) (r : Run String)
    (after : Generator × Except Failure GenerationResult) : Prop where
  /-- The records are those of the run, on a fresh log. -/
  after_eq : after = g.runFresh r
  messages_eq : r.messages .verbose = (reached g.config vs).flatMap (Visit.messages g.config)
  log_of_verbose : g.config.loggingLevel = .verbose →
    after.1.log.text = String.join (((reached g.config vs).flatMap (Visit.messages g.config)).map
      fun m => "Verbose: " ++ m ++ "\n")
  of_failure : ∀ e, vs.findSome? (Visit.failure? g.config) = some e → after.2 = .error e
  of_no_failure : vs.findSome? (Visit.failure? g.config) = none →
    ∃ texts, List.Forall₂ (Visit.Gives g.config) vs texts ∧
      after.2 = .ok ⟨String.join texts, after.1.log.text⟩

/-- What a run tells is what the log of the call shows, with the output spliced from the same
substitutions. -/
theorem logsVisits_runFresh {g : Generator} {vs : List Visit} {r : Run String}
    (h : Tells g.config r vs) : LogsVisits g vs r (g.runFresh r) where
  after_eq := rfl
  messages_eq := h.messages_eq
  log_of_verbose hlevel := by
    rw [text_log_runFresh hlevel (by decide), h.messages_eq]
    rfl
  of_failure e he := by
    change r.outcome.map _ = _
    rw [h.outcome_of_failure e he]
    rfl
  of_no_failure hnone := by
    obtain ⟨texts, hgives, houtcome⟩ := h.outcome_of_no_failure hnone
    refine ⟨texts, hgives, ?_⟩
    change r.outcome.map _ = _
    rw [houtcome]
    rfl

/-- **The log tells the substitutions**: on the level `verbose` a call records, in the order of its
visits, one message for each property of each entity that it enters and one for each slug that it
replaces, with the text that it puts in, and nothing else. If it fails, these are the visits before
the failure and the slugs before the unknown one; if not, its output is made of the texts with
these very substitutions spliced in. It does not matter whether the template is given or has to be
loaded. -/
theorem verbose_log_tells_substitutions (g : Generator) (es : List Entity) :
    (∀ d, LogsVisits g (d.visits (g.job es)) (running (g.job es) d) (g.generateWith d es)) ∧
      ∀ content, LogsVisits g (g.visitsLoading content es)
        (loading g.config.scriptTemplate content >>= running (g.job es))
        (g.generate content es) :=
  ⟨fun d => logsVisits_runFresh (tells_running (g.job es) d), fun content =>
    logsVisits_runFresh (tells_loading_running g content es)⟩

end Generator

end EntityScript
