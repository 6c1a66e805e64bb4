import EntityScript.Proofs.Generation.LogProjection
import EntityScript.Proofs.Generation.Reading

/-!
# The account of a walk

A log on the level `information` tells of every node that a walk processes and of every entity that
an entity node comes to. These messages follow a grammar, which is given here as three relations
between what is processed, the messages, and the text that comes out: `NodeTrace` for a node,
`NodesTrace` for nodes one after the other, `BlockTrace` for the entities of an entity node.

In a block there is one message for every entity of the whole list, and it is settled by what comes
first: a filter that matches, then the type of the entity. After the message of an entity that is
processed, and after no other, stands the trace of the children with that entity as the current
one, and the text of the block consists of theirs. As an entity node may stand below another, a
trace has whole accounts inside of accounts.

The relations are exact: a walk has the trace and the text that they allow for, and no others
(`Job.yields_walk_iff`).

**Main statement**: the messages of a successful run are those of the one trace of its template
(`Generator.information_log_accounts`).
-/

namespace EntityScript

open Metadata (Entity)
open Template (Document Node)

/-! ### What a run yields -/

namespace Run

variable {r s : Run String} {t : List String} {output : String}

/-- The run has these messages on the level of information and ends in this text. -/
def Yields (r : Run String) (t : List String) (output : String) : Prop :=
  r.messages .information = t ∧ r.outcome = .ok output

/-- A run that records nothing and gives a text yields that text, without a message. It is what a
list of steps begins from. -/
theorem yields_pure_iff {text : String} :
    Yields (Pure.pure text) t output ↔ t = [] ∧ output = text := by
  rw [Yields, messages_pure, outcome_pure, Except.ok.injEq, eq_comm, eq_comm (a := text)]

/-- Runs one after the other yield what each of them yields: the messages of the first before those
of the second, and likewise the texts. -/
theorem yields_seq_iff :
    (r >>= fun text => s >>= fun rest => Pure.pure (text ++ rest)).Yields t output ↔
      ∃ t₁ o₁ t₂ o₂, r.Yields t₁ o₁ ∧ s.Yields t₂ o₂ ∧ t = t₁ ++ t₂ ∧ output = o₁ ++ o₂ := by
  constructor
  · rintro ⟨hmessages, houtcome⟩
    -- A failure of either run would be the outcome of the whole, which is a success.
    cases hr : r.outcome with
    | error e => simp [bind_of_error hr] at houtcome
    | ok text =>
      rw [messages_bind_of_ok hr, messages_bind_pure] at hmessages
      rw [bind_of_ok hr] at houtcome
      cases hs : s.outcome with
      | error e => simp [bind_of_error hs] at houtcome
      | ok rest =>
        rw [bind_of_ok hs] at houtcome
        exact ⟨_, text, _, rest, ⟨rfl, hr⟩, ⟨rfl, hs⟩, hmessages.symm,
          (Except.ok.inj houtcome).symm⟩
  · rintro ⟨t₁, o₁, t₂, o₂, ⟨rfl, hr⟩, ⟨rfl, hs⟩, rfl, rfl⟩
    refine ⟨?_, ?_⟩
    · rw [messages_bind_of_ok hr, messages_bind_pure]
    · rw [bind_of_ok hr, bind_of_ok hs]
      rfl

/-- A message that comes first is the first of the trace. This is how the name of a node gets in
front of what its children tell. -/
theorem yields_record_iff {message : String} :
    (record .information message >>= fun _ => s).Yields t output ↔
      ∃ t', s.Yields t' output ∧ t = message :: t' := by
  rw [Yields, messages_bind_of_ok rfl, messages_record, bind_of_ok rfl]
  constructor
  · rintro ⟨rfl, houtcome⟩
    exact ⟨_, ⟨rfl, houtcome⟩, rfl⟩
  · rintro ⟨t', ⟨rfl, houtcome⟩, rfl⟩
    exact ⟨rfl, houtcome⟩

/-- A message that comes last is the last of the trace, and it comes only if what stands before it
does not fail. -/
theorem yields_record_last_iff {message : String} :
    (r >>= fun text => record .information message >>= fun _ => Pure.pure text).Yields t output ↔
      ∃ t', r.Yields t' output ∧ t = t' ++ [message] := by
  constructor
  · rintro ⟨hmessages, houtcome⟩
    cases hr : r.outcome with
    | error e => simp [bind_of_error hr] at houtcome
    | ok text =>
      rw [messages_bind_of_ok hr, messages_bind_pure, messages_record] at hmessages
      rw [bind_of_ok hr] at houtcome
      exact ⟨_, ⟨rfl, hr.trans houtcome⟩, hmessages.symm⟩
  · rintro ⟨t', ⟨rfl, hr⟩, rfl⟩
    refine ⟨?_, ?_⟩
    · rw [messages_bind_of_ok hr, messages_bind_pure, messages_record]
    · rw [bind_of_ok hr]
      rfl

theorem yields_recordFailure_iff : r.recordFailure.Yields t output ↔ r.Yields t output := by
  rw [Yields, messages_recordFailure (by decide), outcome_recordFailure]
  rfl

/-- Messages of another level do not matter: what is told of the properties of an entity has no part
in a trace. -/
theorem yields_recordAll_iff {l : LogLevel} (hl : l ≠ .information) {ms : List String} :
    (recordAll l ms >>= fun _ => s).Yields t output ↔ s.Yields t output := by
  rw [Yields, messages_bind_of_ok rfl, messages_recordAll_of_ne hl, bind_of_ok rfl,
    List.nil_append]
  rfl

end Run

/-! ### Traces -/

namespace Generation

mutual

/-- `NodeTrace job current n t output`: where `current` is the current entity, processing the node
`n` makes the messages `t` and gives the text `output`. -/
inductive NodeTrace (job : Job) : Option Entity → Node → List String → String → Prop
  | literal {current : Option Entity} {text output : String}
      (expands : (Piece.mk text current none).expansion job.config = .ok output) :
      NodeTrace job current (.literal text)
        ["Process node: " ++ (Node.literal text).name] output
  /-- An entity node goes through the whole list, whichever entity is current. -/
  | entity {current : Option Entity} {children : List Node} {t : List String} {output : String}
      (flag : job.entities = [] ∨ job.cancelled = false)
      (block : BlockTrace job children job.entities t output) :
      NodeTrace job current (.entity children)
        (("Process node: " ++ (Node.entity children).name) :: t) output
  | attributeList {e : Entity} {fragment : Option String} {texts : List String}
      (expands : ((Node.attributeList fragment).pieces job.config job.entities (some e)).mapM
        (Piece.expansion job.config) = .ok texts) :
      NodeTrace job (some e) (.attributeList fragment)
        ["Process node: " ++ (Node.attributeList fragment).name] (String.join texts)
  | attributeListOutside {fragment : Option String} :
      NodeTrace job none (.attributeList fragment)
        ["Process node: " ++ (Node.attributeList fragment).name,
          "Skipping attribute_list outside of an entity"] ""
  | container {current : Option Entity} {children : List Node} {t : List String} {output : String}
      (nodes : NodesTrace job current children t output) :
      NodeTrace job current (.container children)
        (("Process node: " ++ (Node.container children).name) :: t) output
  | ignored {current : Option Entity} {name : String} :
      NodeTrace job current (.ignored name) ["Process node: " ++ (Node.ignored name).name] ""

/-- `NodesTrace job current ns t output`: the same for nodes one after the other. -/
inductive NodesTrace (job : Job) : Option Entity → List Node → List String → String → Prop
  | nil {current : Option Entity} : NodesTrace job current [] [] ""
  | cons {current : Option Entity} {n : Node} {ns : List Node} {t t' : List String}
      {output output' : String} (head : NodeTrace job current n t output)
      (tail : NodesTrace job current ns t' output') :
      NodesTrace job current (n :: ns) (t ++ t') (output ++ output')

/-- `BlockTrace job children es t output`: the account of the entities `es` in an entity node with
these children. Every entity has one message, by the first case that applies to it. -/
inductive BlockTrace (job : Job) : List Node → List Entity → List String → String → Prop
  | nil {children : List Node} : BlockTrace job children [] [] ""
  | filtered {children : List Node} {e : Entity} {es : List Entity} {t : List String}
      {output : String}
      (matched : ∃ rule ∈ job.config.entityFilters.rules, rule.matchesName e.logicalName = true)
      (tail : BlockTrace job children es t output) :
      BlockTrace job children (e :: es) (("Skipping filtered entity: " ++ e.logicalName) :: t)
        output
  | outside {children : List Node} {e : Entity} {es : List Entity} {t : List String}
      {output : String}
      (unmatched : ∀ rule ∈ job.config.entityFilters.rules,
        ¬ rule.matchesName e.logicalName = true)
      (excluded : ¬ job.config.entityTypes.includes e = true)
      (tail : BlockTrace job children es t output) :
      BlockTrace job children (e :: es)
        (("Skipping entity outside of " ++ job.config.entityTypes.name ++ " scope: " ++
          e.logicalName) :: t) output
  | processed {children : List Node} {e : Entity} {es : List Entity} {t t' : List String}
      {output output' : String}
      (unmatched : ∀ rule ∈ job.config.entityFilters.rules,
        ¬ rule.matchesName e.logicalName = true)
      (included : job.config.entityTypes.includes e = true)
      (nodes : NodesTrace job (some e) children t output)
      (tail : BlockTrace job children es t' output') :
      BlockTrace job children (e :: es)
        (("Processing entity: " ++ e.logicalName) :: (t ++ t')) (output ++ output')

end

namespace BlockTrace

variable {job : Job} {children : List Node} {e : Entity} {es : List Entity} {t : List String}
  {output : String}

/-! The account of a first entity, case by case. -/

/-- A first entity that a filter matches is skipped for that reason, and the account is that of the
entities behind it. -/
theorem cons_iff_of_matched
    (h : ∃ rule ∈ job.config.entityFilters.rules, rule.matchesName e.logicalName = true) :
    BlockTrace job children (e :: es) t output ↔
      ∃ t', BlockTrace job children es t' output ∧
        t = ("Skipping filtered entity: " ++ e.logicalName) :: t' := by
  constructor
  · intro htrace
    obtain ⟨rule, hrule, hmatches⟩ := h
    cases htrace with
    | filtered _ tail => exact ⟨_, tail, rfl⟩
    | outside unmatched _ _ => exact absurd hmatches (unmatched rule hrule)
    | processed unmatched _ _ _ => exact absurd hmatches (unmatched rule hrule)
  · rintro ⟨t', tail, rfl⟩
    exact .filtered h tail

/-- A first entity that no filter matches and whose type excludes it is skipped for its type. Only
an entity that no filter matches is asked for its type. -/
theorem cons_iff_of_excluded
    (h : ∀ rule ∈ job.config.entityFilters.rules, ¬ rule.matchesName e.logicalName = true)
    (htype : ¬ job.config.entityTypes.includes e = true) :
    BlockTrace job children (e :: es) t output ↔
      ∃ t', BlockTrace job children es t' output ∧
        t = ("Skipping entity outside of " ++ job.config.entityTypes.name ++ " scope: " ++
          e.logicalName) :: t' := by
  constructor
  · intro htrace
    cases htrace with
    | filtered matched _ =>
      obtain ⟨rule, hrule, hmatches⟩ := matched
      exact absurd hmatches (h rule hrule)
    | outside _ _ tail => exact ⟨_, tail, rfl⟩
    | processed _ included _ _ => exact absurd included htype
  · rintro ⟨t', tail, rfl⟩
    exact .outside h htype tail

/-- A first entity that neither its name nor its type excludes is processed, and the trace of the
children stands between its message and the account of the entities behind it. -/
theorem cons_iff_of_included
    (h : ∀ rule ∈ job.config.entityFilters.rules, ¬ rule.matchesName e.logicalName = true)
    (htype : job.config.entityTypes.includes e = true) :
    BlockTrace job children (e :: es) t output ↔
      ∃ t', (∃ t₁ o₁ t₂ o₂, NodesTrace job (some e) children t₁ o₁ ∧
          BlockTrace job children es t₂ o₂ ∧ t' = t₁ ++ t₂ ∧ output = o₁ ++ o₂) ∧
        t = ("Processing entity: " ++ e.logicalName) :: t' := by
  constructor
  · intro htrace
    cases htrace with
    | filtered matched _ =>
      obtain ⟨rule, hrule, hmatches⟩ := matched
      exact absurd hmatches (h rule hrule)
    | outside _ excluded _ => exact absurd htype excluded
    | processed _ _ nodes tail => exact ⟨_, ⟨_, _, _, _, nodes, tail, rfl, rfl⟩, rfl⟩
  · rintro ⟨_, ⟨_, _, _, _, nodes, tail, rfl, rfl⟩, rfl⟩
    exact .processed h htype nodes tail

end BlockTrace

/-! ### Expansions have no part in a trace -/

theorem messages_information_run_piece (c : Config) (p : Piece) :
    ((Step.piece p).run c).messages .information = [] := by
  rw [Step.run, expand, Run.messages_bind_pure, messages_expandPassages_of_ne (by decide)]

/-- The expansion of a text yields its text if it does not fail, and no message. What it tells of
its slugs is on another level. -/
theorem yields_piece_iff {c : Config} {p : Piece} {t : List String} {output : String} :
    ((Step.piece p).run c).Yields t output ↔ t = [] ∧ p.expansion c = .ok output := by
  rw [Run.Yields, messages_information_run_piece, outcome_run_piece, eq_comm]

/-- The expansions of several texts yield these texts joined, and no message. The fragment of an
attribute list is expanded this way. -/
theorem yields_pieces_iff {c : Config} {ps : List Piece} {t : List String} {output : String} :
    (runSteps c (ps.map .piece)).Yields t output ↔
      t = [] ∧ ∃ texts, ps.mapM (Piece.expansion c) = .ok texts ∧ output = String.join texts := by
  have hmessages : (runSteps c (ps.map .piece)).messages .information = [] := by
    induction ps with
    | nil => rfl
    | cons p ps ih =>
      rw [List.map_cons, runSteps_cons]
      refine Run.messages_bind_eq_nil (messages_information_run_piece c p) fun _ => ?_
      rw [Run.messages_bind_pure, ih]
  rw [Run.Yields, hmessages, outcome_runSteps_pieces, eq_comm]
  refine and_congr_right fun _ => ?_
  cases ps.mapM (Piece.expansion c) with
  | error e =>
    change Except.error e = Except.ok output ↔ _
    simp only [reduceCtorEq, false_and, exists_false]
  | ok texts =>
    change Except.ok (String.join texts) = Except.ok output ↔ _
    simp only [Except.ok.injEq, exists_eq_left', eq_comm]

/-! ### A walk yields its trace -/

namespace Job

variable {job : Job} {t : List String} {output : String}

/-- What an entity node yields is the account of its entities, if that is so of the children for
each of them. The induction is on the entities; the three cases of `BlockTrace` are met in the order
in which the walk looks at them. -/
theorem yields_flatMap_stepsVisiting_iff {children : List Node} {body : Entity → List Step}
    (hbody : ∀ e t output, (runSteps job.config (body e)).Yields t output ↔
      NodesTrace job (some e) children t output)
    {es : List Entity} (hflag : es = [] ∨ job.cancelled = false) :
    (runSteps job.config (es.flatMap (job.stepsVisiting body))).Yields t output ↔
      BlockTrace job children es t output := by
  induction es generalizing t output with
  | nil =>
    rw [List.flatMap_nil, runSteps_nil, Run.yields_pure_iff]
    constructor
    · rintro ⟨rfl, rfl⟩
      exact .nil
    · rintro ⟨⟩
      exact ⟨rfl, rfl⟩
  | cons e es ih =>
    have hflag : job.cancelled = false := hflag.resolve_left (List.cons_ne_nil e es)
    have hes : ∀ {t output}, (runSteps job.config (es.flatMap (job.stepsVisiting body))).Yields t
        output ↔ BlockTrace job children es t output := ih (.inr hflag)
    have hunmatched (h : ¬ job.config.filtersEntity e.logicalName = true) :
        ∀ rule ∈ job.config.entityFilters.rules, ¬ rule.matchesName e.logicalName = true := by
      intro rule hrule hmatches
      exact h (Config.filtersEntity_eq_true_iff.mpr ⟨rule, hrule, hmatches⟩)
    -- What is told of the properties of an entity is on another level.
    have hentered : ∀ t output, (runSteps job.config ((job.propertyMessages e).map
        (.note .verbose) ++ (body e ++ es.flatMap (job.stepsVisiting body)))).Yields t output ↔
          ∃ t₁ o₁ t₂ o₂, NodesTrace job (some e) children t₁ o₁ ∧
            BlockTrace job children es t₂ o₂ ∧ t = t₁ ++ t₂ ∧ output = o₁ ++ o₂ := by
      intro t output
      rw [runSteps_notes, Run.yields_recordAll_iff (by decide), runSteps_append,
        Run.yields_seq_iff]
      simp only [hbody, hes]
    rw [List.flatMap_cons, stepsVisiting, if_neg (by simp [hflag])]
    -- The cases of the account are those of the walk, in the order in which it looks at them.
    split_ifs with hmatched hexcluded
    · rw [List.singleton_append, runSteps_note, Run.yields_record_iff,
        BlockTrace.cons_iff_of_matched (Config.filtersEntity_eq_true_iff.mp hmatched)]
      simp only [hes]
    · rw [List.singleton_append, runSteps_note, Run.yields_record_iff,
        BlockTrace.cons_iff_of_excluded (hunmatched hmatched) (by simpa using hexcluded)]
      simp only [hes]
    · rw [stepsEntering, List.cons_append, List.append_assoc, runSteps_note,
        Run.yields_record_iff,
        BlockTrace.cons_iff_of_included (hunmatched hmatched) (by simpa using hexcluded)]
      simp only [hentered]

/-- With the flag up, an entity node yields nothing unless there are no entities: the walk fails on
the first of them. -/
theorem not_yields_flatMap_stepsVisiting (body : Entity → List Step) {es : List Entity}
    (hflag : ¬ (es = [] ∨ job.cancelled = false)) :
    ¬ (runSteps job.config (es.flatMap (job.stepsVisiting body))).Yields t output := by
  obtain ⟨hes, hflag⟩ := not_or.mp hflag
  obtain ⟨e, es, rfl⟩ := List.exists_cons_of_ne_nil hes
  rw [List.flatMap_cons, stepsVisiting, if_pos (by simpa using hflag), List.singleton_append,
    runSteps_cons, Step.run, Run.bind_of_error rfl]
  rintro ⟨-, ⟨⟩⟩

mutual

/-- What a node yields is its trace, whatever the current entity is. The cases are those of the
kinds of nodes, and each of them takes the name of the node off the trace first. -/
theorem yields_stepsOf_iff (job : Job) (current : Option Entity) : ∀ (n : Node) (t : List String)
    (output : String), (runSteps job.config (job.stepsOf current n)).Yields t output ↔
      NodeTrace job current n t output
  | .literal text, t, output => by
    rw [stepsOf, runSteps_note, Run.yields_record_iff, runSteps_singleton]
    simp only [yields_piece_iff]
    constructor
    · rintro ⟨_, ⟨rfl, h⟩, rfl⟩
      exact .literal h
    · intro htrace
      cases htrace with
      | literal expands => exact ⟨_, ⟨rfl, expands⟩, rfl⟩
  | .entity children, t, output => by
    rw [stepsOf, runSteps_note, Run.yields_record_iff]
    -- With the flag up and an entity to come there is neither a text nor a trace.
    by_cases hflag : job.entities = [] ∨ job.cancelled = false
    · simp only [yields_flatMap_stepsVisiting_iff
        (fun e => yields_stepsOfAll_iff job (some e) children) hflag]
      constructor
      · rintro ⟨_, block, rfl⟩
        exact .entity hflag block
      · intro htrace
        cases htrace with
        | entity _ block => exact ⟨_, block, rfl⟩
    · constructor
      · rintro ⟨_, h, -⟩
        exact absurd h (not_yields_flatMap_stepsVisiting _ hflag)
      · intro htrace
        cases htrace with
        | entity flag _ => exact absurd flag hflag
  | .attributeList fragment, t, output => by
    rw [stepsOf, runSteps_note, Run.yields_record_iff]
    cases current with
    | none =>
      rw [stepsOfList, runSteps_note, runSteps_nil]
      simp only [Run.yields_record_iff, Run.yields_pure_iff]
      constructor
      · rintro ⟨_, ⟨_, ⟨rfl, rfl⟩, rfl⟩, rfl⟩
        exact .attributeListOutside
      · intro htrace
        cases htrace with
        | attributeListOutside => exact ⟨_, ⟨_, ⟨rfl, rfl⟩, rfl⟩, rfl⟩
    | some e =>
      rw [stepsOfList_eq_pieces]
      simp only [yields_pieces_iff]
      constructor
      · rintro ⟨_, ⟨rfl, texts, expands, rfl⟩, rfl⟩
        exact .attributeList expands
      · intro htrace
        cases htrace with
        | attributeList expands => exact ⟨_, ⟨rfl, _, expands, rfl⟩, rfl⟩
  | .container children, t, output => by
    rw [stepsOf, runSteps_note, Run.yields_record_iff]
    simp only [yields_stepsOfAll_iff job current children]
    constructor
    · rintro ⟨_, h, rfl⟩
      exact .container h
    · intro htrace
      cases htrace with
      | container nodes => exact ⟨_, nodes, rfl⟩
  | .ignored name, t, output => by
    rw [stepsOf, runSteps_note, Run.yields_record_iff, runSteps_nil]
    simp only [Run.yields_pure_iff]
    constructor
    · rintro ⟨_, ⟨rfl, rfl⟩, rfl⟩
      exact .ignored
    · rintro ⟨⟩
      exact ⟨_, ⟨rfl, rfl⟩, rfl⟩

/-- What nodes one after the other yield is their trace. Messages and texts are each divided after
the first node. -/
theorem yields_stepsOfAll_iff (job : Job) (current : Option Entity) : ∀ (ns : List Node)
    (t : List String) (output : String),
    (runSteps job.config (job.stepsOfAll current ns)).Yields t output ↔
      NodesTrace job current ns t output
  | [], t, output => by
    rw [stepsOfAll, runSteps_nil, Run.yields_pure_iff]
    constructor
    · rintro ⟨rfl, rfl⟩
      exact .nil
    · rintro ⟨⟩
      exact ⟨rfl, rfl⟩
  | n :: ns, t, output => by
    -- Both sides are divided in the same way, after the first node.
    rw [stepsOfAll, runSteps_append, Run.yields_seq_iff]
    simp only [yields_stepsOf_iff job current n, yields_stepsOfAll_iff job current ns]
    constructor
    · rintro ⟨_, _, _, _, head, tail, rfl, rfl⟩
      exact .cons head tail
    · intro htrace
      cases htrace with
      | cons head tail => exact ⟨_, _, _, _, head, tail, rfl, rfl⟩

end

/-- **A walk yields its trace**, and nothing else: its messages and its text are those that the
trace of its template allows for. -/
theorem yields_walk_iff (job : Job) (d : Document) :
    (job.walk d).Yields t output ↔ NodesTrace job none d.nodes t output := by
  rw [walk_eq_runSteps]
  exact job.yields_stepsOfAll_iff none d.nodes t output

/-- The messages of a whole run, given those of its walk. -/
def account (job : Job) (t : List String) : List String :=
  ("Generating " ++ job.config.moduleName ++ " for " ++ toString job.entities.length ++
    " entities") :: (t ++ ["Generation complete"])

end Job

end Generation

/-! ### Runs of a generator -/

namespace Generator

open Generation

/-- The messages of a whole run are the trace of its template, between the message at the start and
the one at the end that stands in the log of a success. -/
theorem yields_running_iff (job : Job) (d : Document) {t : List String} {output : String} :
    (running job d).Yields t output ↔
      ∃ t', NodesTrace job none d.nodes t' output ∧ t = job.account t' := by
  rw [running, Run.yields_record_iff]
  simp only [Run.yields_record_last_iff, Run.yields_recordFailure_iff, job.yields_walk_iff]
  constructor
  · rintro ⟨_, ⟨t', htrace, rfl⟩, rfl⟩
    exact ⟨t', htrace, rfl⟩
  · rintro ⟨t', htrace, rfl⟩
    exact ⟨_, ⟨t', htrace, rfl⟩, rfl⟩

/-- A call that goes through the template `d` accounts for the entities: if it succeeds, its
messages on the level `information` are those of a trace of `d`, which has the output as its text,
and if there is such a trace then the call succeeds in this way. -/
structure LogsAccount (g : Generator) (d : Document) (es : List Entity)
    (after : Generator × Except Failure GenerationResult) : Prop where
  /-- The records are those of the run, on a fresh log. -/
  after_eq : after = g.runFresh (running (g.job es) d)
  exists_trace : ∀ result, after.2 = .ok result →
    ∃ t, NodesTrace (g.job es) none d.nodes t result.output ∧
      (running (g.job es) d).messages .information = (g.job es).account t ∧
      (g.config.loggingLevel = .information →
        result.log = String.join (((g.job es).account t).map fun m => "Information: " ++ m ++ "\n"))
  of_trace : ∀ t output, NodesTrace (g.job es) none d.nodes t output →
    (running (g.job es) d).messages .information = (g.job es).account t ∧
      after.2 = .ok ⟨output, after.1.log.text⟩

/-- **The log accounts for every entity**: whenever a run processes an entity node, the log of a
successful run has for each entity of the whole list, in order, one message of three: that a filter
matches it; that no filter does and its type excludes it; or that it is processed. The last of
these, and no other, stands before the trace of the children for that entity, in which each node
that is processed tells its name first, and these children are what the output is made of. -/
theorem information_log_accounts (g : Generator) (d : Document) (es : List Entity) :
    LogsAccount g d es (g.generateWith d es) where
  after_eq := rfl
  exists_trace result h := by
    have houtcome : (running (g.job es) d).outcome = .ok result.output := by
      rw [← map_output_generateWith, h]
      rfl
    obtain ⟨t, htrace, ht⟩ := (yields_running_iff (g.job es) d).mp ⟨rfl, houtcome⟩
    have hlog : result.log = (g.generateWith d es).1.log.text := by
      rw [generateWith_snd, houtcome] at h
      exact congrArg GenerationResult.log (Except.ok.inj h).symm
    refine ⟨t, htrace, ht, fun hlevel => ?_⟩
    rw [hlog, ← ht]
    exact text_log_runFresh hlevel (by decide) _
  of_trace t output htrace := by
    obtain ⟨hmessages, houtcome⟩ := (yields_running_iff (g.job es) d).mpr ⟨t, htrace, rfl⟩
    refine ⟨hmessages, ?_⟩
    rw [generateWith_snd, houtcome]
    rfl

/-- An entity that a filter matches is skipped for that reason, also when its type would exclude it;
inside the one that is processed stands a whole account again. -/
example :
    (running ((new { entityTypes := .custom }).job
        [{ logicalName := "syncerror" }, { logicalName := "a" },
          { logicalName := "b", isCustomEntity := some true }])
      ⟨[.entity [.entity [.ignored "note"]]]⟩).messages .information =
      ["Generating MyProject for 3 entities", "Process node: entity",
        "Skipping filtered entity: syncerror", "Skipping entity outside of Custom scope: a",
        "Processing entity: b", "Process node: entity",
        "Skipping filtered entity: syncerror", "Skipping entity outside of Custom scope: a",
        "Processing entity: b", "Process node: note", "Generation complete"] := by
  decide +kernel

end Generator

end EntityScript
