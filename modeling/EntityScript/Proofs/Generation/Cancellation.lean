import EntityScript.Proofs.Generation.SlugCorrectness

/-!
# Cancelling a run

The cancel flag is looked at before every entity of an entity node and nowhere else. A walk begins
outside of every entity, where slugs are kept as they are written and nothing can fail, so all the
steps that it takes up to its first entity node succeed (`Job.succeeds_stepsOf`). Which node that
is depends on the template alone: containers are gone through, and all other nodes end where they
are (`Document.reachesEntity`).

Hence a walk whose flag is up ends before the first entity of the list, if there is one and an
entity node is reached (`Job.haltsWith_stepsOf`), whether or not that entity would be included. If
not, it never looks at the flag (`Job.stepsOf_withFlag_of_not_reaches`). A flag that is down is
looked at, and the walk goes on as without one (`Job.walk_withFlag`).

**Main statement**: with the flag up a run is cancelled exactly in the first of these cases and is
otherwise the run without a flag, which it always is with the flag down
(`Generator.generateWith_withFlag`).
-/

namespace EntityScript

open Metadata (Entity)
open Template (Document Node)

/-! ### Entity nodes that a walk reaches -/

namespace Template

mutual

/-- The node is an entity node, or a container in which one stands in no other entity node. -/
def Node.reachesEntity : Node → Bool
  | .entity _ => true
  | .container children => Node.anyReachesEntity children
  | .literal _ | .attributeList _ | .ignored _ => false

/-- One of the nodes is an entity node, or a container with one in it. -/
def Node.anyReachesEntity : List Node → Bool
  | [] => false
  | n :: ns => n.reachesEntity || Node.anyReachesEntity ns

end

/-- An entity node stands at the top of the template, or inside of containers only. -/
def Document.reachesEntity (d : Document) : Bool :=
  Node.anyReachesEntity d.nodes

end Template

namespace Generation

/-! ### Steps up to a halt -/

/-- The step gives a text and does not fail. -/
def Step.Succeeds (c : Config) (s : Step) : Prop :=
  ∃ text, (s.run c).outcome = .ok text

theorem Step.succeeds_note (c : Config) (level : LogLevel) (message : String) :
    (note level message).Succeeds c :=
  ⟨"", rfl⟩

/-- A text outside of every entity can be expanded, whatever its slugs are: all of them are kept as
they are written, unknown names included. -/
theorem Step.succeeds_outer_piece (c : Config) (text : String) :
    (piece ⟨text, none, none⟩).Succeeds c := by
  obtain ⟨output, houtput⟩ :=
    Piece.exists_expansion_of_outside (c := c) (p := ⟨text, none, none⟩) rfl rfl
  exact ⟨output, (outcome_run_piece c _).trans houtput⟩

/-- The steps succeed up to one that stops the walk. -/
def HaltsWith (c : Config) (e : Failure) (ss : List Step) : Prop :=
  ∃ before after, ss = before ++ .halt e :: after ∧ ∀ s ∈ before, s.Succeeds c

namespace HaltsWith

variable {c : Config} {e : Failure} {ss : List Step}

theorem of_halt (after : List Step) : HaltsWith c e (.halt e :: after) :=
  ⟨[], after, rfl, List.forall_mem_nil _⟩

theorem append_right (h : HaltsWith c e ss) (more : List Step) : HaltsWith c e (ss ++ more) := by
  obtain ⟨before, after, rfl, hbefore⟩ := h
  exact ⟨before, after ++ more, List.append_assoc _ _ _, hbefore⟩

theorem append_left {first : List Step} (hfirst : ∀ s ∈ first, s.Succeeds c)
    (h : HaltsWith c e ss) : HaltsWith c e (first ++ ss) := by
  obtain ⟨before, after, rfl, hbefore⟩ := h
  exact ⟨first ++ before, after, (List.append_assoc _ _ _).symm,
    List.forall_mem_append.mpr ⟨hfirst, hbefore⟩⟩

theorem note (h : HaltsWith c e ss) (level : LogLevel) (message : String) :
    HaltsWith c e (.note level message :: ss) :=
  h.append_left (List.forall_mem_singleton.mpr (Step.succeeds_note c level message))

/-- What stands before the halt is done, and its text is lost: the outcome is the failure alone.
This is why a cancelled run has no output to show. -/
theorem outcome_runSteps (h : HaltsWith c e ss) : (runSteps c ss).outcome = .error e := by
  obtain ⟨before, after, rfl, hbefore⟩ := h
  -- The steps before the halt give their texts one by one, so none of them hides the halt.
  obtain ⟨texts, htexts⟩ : ∃ texts, before.mapM (fun s => (s.run c).outcome) = .ok texts :=
    exists_mapM_eq_ok_iff.mpr hbefore
  have hstart : (runSteps c before).outcome = .ok (String.join texts) := by
    rw [runSteps, Run.outcome_concat, List.mapM_map]
    exact congrArg (String.join <$> ·) htexts
  rw [runSteps_append, Run.outcome_bind, hstart, runSteps_cons]
  rfl

end HaltsWith

namespace Job

mutual

/-- **Outside of every entity** the steps of a node succeed, if it reaches no entity node. A text
there has no record for its slugs, and an attribute list is passed over with a note. -/
theorem succeeds_stepsOf (job : Job) : ∀ n : Node, n.reachesEntity = false →
    ∀ s ∈ job.stepsOf none n, s.Succeeds job.config
  | .literal text, _ => List.forall_mem_cons.mpr
      ⟨Step.succeeds_note _ _ _, List.forall_mem_singleton.mpr (Step.succeeds_outer_piece _ text)⟩
  | .entity children, h => absurd h (by simp [Node.reachesEntity])
  | .attributeList fragment, _ => List.forall_mem_cons.mpr
      ⟨Step.succeeds_note _ _ _, List.forall_mem_singleton.mpr (Step.succeeds_note _ _ _)⟩
  | .container children, h => List.forall_mem_cons.mpr
      ⟨Step.succeeds_note _ _ _, succeeds_stepsOfAll job children h⟩
  | .ignored name, _ => List.forall_mem_singleton.mpr (Step.succeeds_note _ _ _)

/-- Outside of every entity the steps of nodes succeed, if they reach no entity node. There is no
slug to resolve outside of an entity, and nothing else could go wrong. -/
theorem succeeds_stepsOfAll (job : Job) : ∀ ns : List Node, Node.anyReachesEntity ns = false →
    ∀ s ∈ job.stepsOfAll none ns, s.Succeeds job.config
  | [], _ => List.forall_mem_nil _
  | n :: ns, h => by
    obtain ⟨hn, hns⟩ := Bool.or_eq_false_iff.mp h
    exact List.forall_mem_append.mpr ⟨succeeds_stepsOf job n hn, succeeds_stepsOfAll job ns hns⟩

end

section

variable {job : Job} {e : Entity} {es : List Entity}

mutual

/-- **With the flag up** a node that reaches an entity node stops the walk before the first entity
of the list, and all before that succeeds. Only entity nodes and containers can reach one, so these
are the two cases. -/
theorem haltsWith_stepsOf (h : job.cancelled = true) (hes : job.entities = e :: es) :
    ∀ n : Node, n.reachesEntity = true →
      HaltsWith job.config (.cancelled e.logicalName) (job.stepsOf none n)
  | .entity children, _ => by
    have hvisit : ∀ body, job.stepsVisiting body e = [.halt (.cancelled e.logicalName)] := by
      intro body
      -- The flag is looked at first, before the rules and the types.
      simp only [stepsVisiting, h, if_true]
    rw [stepsOf, hes, List.flatMap_cons, hvisit]
    exact (HaltsWith.of_halt _).note _ _
  | .container children, hn => by
    rw [stepsOf]
    exact (haltsWith_stepsOfAll h hes children hn).note _ _

/-- With the flag up nodes that reach an entity node stop the walk before the first entity of the
list. It is the first of the nodes to reach one that does so; those before it succeed. -/
theorem haltsWith_stepsOfAll (h : job.cancelled = true) (hes : job.entities = e :: es) :
    ∀ ns : List Node, Node.anyReachesEntity ns = true →
      HaltsWith job.config (.cancelled e.logicalName) (job.stepsOfAll none ns)
  | n :: ns, hns => by
    rw [stepsOfAll]
    cases hn : n.reachesEntity with
    | true => exact (haltsWith_stepsOf h hes n hn).append_right _
    | false =>
      rw [Node.anyReachesEntity, hn, Bool.false_or] at hns
      exact (haltsWith_stepsOfAll h hes ns hns).append_left (succeeds_stepsOf job n hn)

end

end

mutual

/-- **Where the flag is not looked at**: without an entity node to reach, or without entities, the
steps of a node do not depend on it, whatever it is. -/
theorem stepsOf_withFlag_of_not_reaches (job : Job) (flag : Option Bool) : ∀ n : Node,
    n.reachesEntity = false ∨ job.entities = [] →
      (job.withFlag flag).stepsOf none n = job.stepsOf none n
  | .literal text, _ => rfl
  | .entity children, h => by
    have hes : job.entities = [] := h.resolve_left (by simp [Node.reachesEntity])
    simp only [stepsOf, withFlag, hes, List.flatMap_nil]
  | .attributeList fragment, _ => rfl
  | .container children, h => by
    rw [stepsOf, stepsOf, stepsOfAll_withFlag_of_not_reaches job flag children h]
  | .ignored name, _ => rfl

/-- Without an entity node to reach, or without entities, the steps of nodes do not depend on the
flag. -/
theorem stepsOfAll_withFlag_of_not_reaches (job : Job) (flag : Option Bool) : ∀ ns : List Node,
    Node.anyReachesEntity ns = false ∨ job.entities = [] →
      (job.withFlag flag).stepsOfAll none ns = job.stepsOfAll none ns
  | [], _ => rfl
  | n :: ns, h => by
    have hn : n.reachesEntity = false ∨ job.entities = [] :=
      h.imp_left fun h => (Bool.or_eq_false_iff.mp h).1
    have hns : Node.anyReachesEntity ns = false ∨ job.entities = [] :=
      h.imp_left fun h => (Bool.or_eq_false_iff.mp h).2
    rw [stepsOfAll, stepsOfAll, stepsOf_withFlag_of_not_reaches job flag n hn,
      stepsOfAll_withFlag_of_not_reaches job flag ns hns]

end

theorem walk_withFlag_of_not_reaches (job : Job) (flag : Option Bool) {d : Document}
    (h : d.reachesEntity = false ∨ job.entities = []) :
    (job.withFlag flag).walk d = job.walk d := by
  rw [walk_eq_runSteps, walk_eq_runSteps, stepsOfAll_withFlag_of_not_reaches job flag d.nodes h]
  rfl

end Job

end Generation

/-! ### Runs of a generator -/

namespace Generator

variable {g : Generator} {d : Document} {es : List Entity}

theorem job_withFlag (g : Generator) (flag : Option Bool) (es : List Entity) :
    (g.withFlag flag).job es = (g.job es).withFlag flag :=
  rfl

/-- A run depends on the flag through the walk only: if that is the same under two flags, so are the
result and the log. -/
theorem generateWith_withFlag_congr {flag flag' : Option Bool}
    (hwalk : ((g.job es).withFlag flag).walk d = ((g.job es).withFlag flag').walk d) :
    ((g.withFlag flag).generateWith d es).2 = ((g.withFlag flag').generateWith d es).2 ∧
      ((g.withFlag flag).generateWith d es).1.log =
        ((g.withFlag flag').generateWith d es).1.log := by
  have hrun : running ((g.withFlag flag).job es) d = running ((g.withFlag flag').job es) d := by
    rw [job_withFlag, job_withFlag, running, running, hwalk]
    rfl
  have hlog : ((g.withFlag flag).generateWith d es).1.log =
      ((g.withFlag flag').generateWith d es).1.log := by
    rw [log_generateWith, log_generateWith, hrun]
    rfl
  refine ⟨?_, hlog⟩
  rw [generateWith_snd, generateWith_snd, hrun, hlog]

/-- With the flag up, a run that reaches an entity node is cancelled before the first entity of the
list, and nothing that its texts have given until then is kept. -/
theorem generateWith_raised_of_reaches {e : Entity} {rest : List Entity}
    (hd : d.reachesEntity = true) (hes : es = e :: rest) :
    ((g.withFlag (some true)).generateWith d es).2 = .error (.cancelled e.logicalName) := by
  have hhalts : Generation.HaltsWith ((g.withFlag (some true)).job es).config
      (.cancelled e.logicalName) (((g.withFlag (some true)).job es).stepsOfAll none d.nodes) :=
    Generation.Job.haltsWith_stepsOfAll rfl hes d.nodes hd
  rw [generateWith_snd, outcome_running, Generation.Job.walk_eq_runSteps, hhalts.outcome_runSteps]
  rfl

/-- A flag that is up but never looked at does no harm. The template then has no entity node that a
walk comes to. -/
theorem generateWith_raised_of_not_reaches (h : d.reachesEntity = false ∨ es = []) :
    ((g.withFlag (some true)).generateWith d es).2 = ((g.withFlag none).generateWith d es).2 ∧
      ((g.withFlag (some true)).generateWith d es).1.log =
        ((g.withFlag none).generateWith d es).1.log := by
  have hraised := (g.job es).walk_withFlag_of_not_reaches (some true) h
  have hfree := (g.job es).walk_withFlag_of_not_reaches none h
  exact generateWith_withFlag_congr (hraised.trans hfree.symm)

/-- A flag that is down is looked at before every entity, and the run goes on as without one. So to
lower a flag is as good as to take it away. -/
theorem generateWith_lowered :
    ((g.withFlag (some false)).generateWith d es).2 = ((g.withFlag none).generateWith d es).2 ∧
      ((g.withFlag (some false)).generateWith d es).1.log =
        ((g.withFlag none).generateWith d es).1.log := by
  have hdown : (((g.job es).withFlag none).withFlag (some false)).cancelled =
      ((g.job es).withFlag none).cancelled := rfl
  exact generateWith_withFlag_congr (Generation.Job.walk_withFlag hdown d)

/-- Without a flag a run is not cancelled: all it can fail on is a slug. The failure of a slug tells
which slug, and not that the run was stopped. -/
theorem generateWith_free_ne_cancelled (name : String) :
    ((g.withFlag none).generateWith d es).2 ≠ .error (.cancelled name) := by
  intro h
  rw [generateWith_snd, outcome_running_eq_reading rfl] at h
  cases hread : d.reading (g.withFlag none).config es with
  | error f =>
    obtain ⟨w, rfl⟩ := Template.Document.eq_slugResolution_of_reading hread
    rw [hread] at h
    cases h
  | ok output =>
    rw [hread] at h
    cases h

/-- **Cancellation is exact**: with the flag up a run is cancelled before an entity exactly when
that is the first one of the list, included or not, and the template has an entity node at its top
or inside of containers only; no slug fails before that. In all other cases the run ends as it does
without a flag and leaves the same log, and with the flag down it always does. -/
theorem generateWith_withFlag (g : Generator) (d : Document) (es : List Entity) :
    let raised := (g.withFlag (some true)).generateWith d es
    let lowered := (g.withFlag (some false)).generateWith d es
    let free := (g.withFlag none).generateWith d es
    (∀ name, raised.2 = .error (.cancelled name) ↔
      d.reachesEntity = true ∧ es.head?.map (·.logicalName) = some name) ∧
    (¬ (d.reachesEntity = true ∧ es ≠ []) → raised.2 = free.2 ∧ raised.1.log = free.1.log) ∧
    lowered.2 = free.2 ∧ lowered.1.log = free.1.log := by
  intro raised lowered free
  have hsame : ¬ (d.reachesEntity = true ∧ es ≠ []) →
      raised.2 = free.2 ∧ raised.1.log = free.1.log := by
    intro h
    refine generateWith_raised_of_not_reaches ?_
    rw [← Bool.not_eq_true]
    exact (not_and_or.mp h).imp_right not_not.mp
  refine ⟨fun name => ?_, hsame, generateWith_lowered⟩
  -- Outside this case the raised flag changes nothing, and a run without a flag is never cancelled.
  by_cases h : d.reachesEntity = true ∧ es ≠ []
  · obtain ⟨e, rest, rfl⟩ := List.exists_cons_of_ne_nil h.2
    have hraised : raised.2 = .error (.cancelled e.logicalName) :=
      generateWith_raised_of_reaches h.1 rfl
    simp [hraised, h.1]
  · constructor
    · intro hname
      exact absurd ((hsame h).1.symm.trans hname) (generateWith_free_ne_cancelled name)
    · rintro ⟨hd, hhead⟩
      refine absurd ⟨hd, ?_⟩ h
      rintro rfl
      cases hhead

/-- The first entity is named although a rule matches it, and the unknown slug before it does no
harm; where only a text is left, the flag does none. -/
theorem generateWith_withFlag_filtered :
    let d : Document := ⟨[.literal "\x7b#ent (unknown)#\x7d", .container [.entity []]]⟩
    let text : Document := ⟨[.literal "\x7b#ent (unknown)#\x7d", .container [.ignored "note"]]⟩
    let g := new { loggingLevel := .information }
    ((g.withFlag (some true)).generateWith d [{ logicalName := "syncerror" }]).2 =
        .error (.cancelled "syncerror") ∧
      ¬ (text.reachesEntity = true ∧ [({ logicalName := "syncerror" } : Entity)] ≠ []) ∧
      ((g.withFlag (some true)).generateWith text [{ logicalName := "syncerror" }]).2 =
        ((g.withFlag none).generateWith text [{ logicalName := "syncerror" }]).2 := by
  intro d text g
  have htext : ¬ (text.reachesEntity = true ∧
      [({ logicalName := "syncerror" } : Entity)] ≠ []) := by
    rintro ⟨h, -⟩
    cases h
  exact ⟨((generateWith_withFlag g d _).1 _).mpr ⟨rfl, rfl⟩, htext,
    ((generateWith_withFlag g text _).2.1 htext).1⟩

end Generator

end EntityScript
