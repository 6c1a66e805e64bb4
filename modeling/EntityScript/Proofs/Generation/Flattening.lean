import EntityScript.Proofs.Generation.Prefiltering

/-!
# Flat templates

A container groups nodes and does nothing else. A node of another name does nothing, and neither
does an attribute list that has no fragment or stands outside of every entity.
`Document.flattened` puts the children of containers in their places, at every depth, and leaves
those nodes out. What is left is flat (`Document.IsFlat`): texts, entity nodes, and below these the
attribute lists with a fragment.

Whether an attribute list may go is settled by all the nodes around it, as any entity node among
them makes an entity current. An entity node stays even when nothing is left in it, because it
looks at the cancel flag before every entity.

At every node the same steps are left, apart from notes on the level of information, whether the
flag is up or down (`Job.filter_stepsOf_flattened`).

**Main statement**: a template and the flattened one give the same output or the same failure, and
the same log on every level but that of information (`Generator.generateWith_flattened`).
-/

namespace EntityScript

open Metadata (Entity)
open Template (Document Node)

/-! ### Flattening -/

namespace Template

mutual

/-- The nodes that a node leaves, below an entity node or outside of all. -/
def Node.flattened (inside : Bool) : Node → List Node
  | .literal text => [.literal text]
  | .entity children => [.entity (Node.flattenedAll true children)]
  | .attributeList fragment =>
    if inside && fragment.isSome then [.attributeList fragment] else []
  | .container children => Node.flattenedAll inside children
  | .ignored _ => []

/-- The nodes that a list of nodes leaves. -/
def Node.flattenedAll (inside : Bool) : List Node → List Node
  | [] => []
  | n :: ns => n.flattened inside ++ Node.flattenedAll inside ns

end

/-- The template without groups and without nodes that do nothing. -/
def Document.flattened (d : Document) : Document :=
  ⟨Node.flattenedAll false d.nodes⟩

mutual

/-- The node and those below it are texts, entity nodes, and below these attribute lists with a
fragment. -/
def Node.IsFlat (inside : Bool) : Node → Prop
  | .literal _ => True
  | .entity children => Node.AreFlat true children
  | .attributeList fragment => inside = true ∧ fragment.isSome = true
  | .container _ | .ignored _ => False

/-- All of the nodes are flat. -/
def Node.AreFlat (inside : Bool) : List Node → Prop
  | [] => True
  | n :: ns => n.IsFlat inside ∧ Node.AreFlat inside ns

end

/-- A template of nothing but texts, entity nodes, and below these attribute lists with a
fragment. -/
def Document.IsFlat (d : Document) : Prop :=
  Node.AreFlat false d.nodes

theorem Node.areFlat_append {inside : Bool} {ns ms : List Node} (hns : Node.AreFlat inside ns)
    (hms : Node.AreFlat inside ms) : Node.AreFlat inside (ns ++ ms) := by
  induction ns with
  | nil => exact hms
  | cons n ns ih => exact ⟨hns.1, ih hns.2⟩

mutual

/-- What a node leaves is flat. A container is replaced by what its children leave, so the depth at
which a node stands may change, but not whether it stands in an entity node. -/
theorem Node.areFlat_flattened (inside : Bool) :
    ∀ n : Node, Node.AreFlat inside (n.flattened inside)
  | .literal text => ⟨trivial, trivial⟩
  | .entity children => ⟨Node.areFlat_flattenedAll true children, trivial⟩
  | .attributeList fragment => by
    rw [Node.flattened]
    split_ifs with h
    · exact ⟨Bool.and_eq_true_iff.mp h, trivial⟩
    · trivial
  | .container children => Node.areFlat_flattenedAll inside children
  | .ignored name => trivial

theorem Node.areFlat_flattenedAll (inside : Bool) :
    ∀ ns : List Node, Node.AreFlat inside (Node.flattenedAll inside ns)
  | [] => trivial
  | n :: ns => Node.areFlat_append (Node.areFlat_flattened inside n)
      (Node.areFlat_flattenedAll inside ns)

end

end Template

/-! ### The steps that are left -/

namespace Generation

namespace Job

section

variable {job : Job} {keep : Step → Bool}

/-- What an entity node does is settled by what is done for each entity, whatever the flag is. The
flag is not known here: an entity that stops the walk does so in both. -/
theorem filter_flatMap_stepsVisiting_congr {body body' : Entity → List Step}
    (h : ∀ e, (body e).filter keep = (body' e).filter keep) (es : List Entity) :
    (es.flatMap (job.stepsVisiting body)).filter keep =
      (es.flatMap (job.stepsVisiting body')).filter keep := by
  have hvisit : ∀ e, (job.stepsVisiting body e).filter keep =
      (job.stepsVisiting body' e).filter keep := by
    intro e
    simp only [stepsVisiting, stepsEntering, apply_ite (List.filter keep), List.filter_cons,
      List.filter_append, h]
  rw [List.filter_flatMap, List.filter_flatMap, funext hvisit]

end

/-- An attribute list that is left out does nothing but tell that it is passed over, on the level
that is not compared. -/
theorem filter_stepsOfList_of_left_out (job : Job) {current : Option Entity}
    {fragment : Option String} (h : ¬ (current.isSome && fragment.isSome) = true) :
    (job.stepsOfList current fragment).filter Step.isAudible = [] := by
  cases current with
  | none => rfl
  | some e =>
    cases fragment with
    | none => rfl
    | some fragment => exact absurd rfl h

mutual

/-- **What a node leaves does what the node does**, notes on the level of information apart. The
statement is on lists of steps, as one node may leave several or none. -/
theorem filter_stepsOf_flattened (job : Job) (current : Option Entity) : ∀ n : Node,
    (job.stepsOfAll current (n.flattened current.isSome)).filter Step.isAudible =
      (job.stepsOf current n).filter Step.isAudible
  | .literal text => by rw [Node.flattened, stepsOfAll_singleton]
  | .entity children => by
    rw [Node.flattened, stepsOfAll_singleton, stepsOf, stepsOf,
      filter_information_cons fun _ => rfl, filter_information_cons fun _ => rfl]
    -- The current entity of the children is the visited one, whichever was current outside.
    exact filter_flatMap_stepsVisiting_congr
      (fun e => filter_stepsOfAll_flattened job (some e) children) job.entities
  | .attributeList fragment => by
    rw [Node.flattened]
    split_ifs with h
    · rw [stepsOfAll_singleton]
    · rw [stepsOf, filter_information_cons fun _ => rfl, filter_stepsOfList_of_left_out job h]
      rfl
  | .container children => by
    rw [Node.flattened, stepsOf, filter_information_cons fun _ => rfl,
      filter_stepsOfAll_flattened job current children]
  | .ignored name => rfl

/-- What nodes leave does what the nodes do, notes on the level of information apart. The list is
divided after its first node, which may leave none, one or many. -/
theorem filter_stepsOfAll_flattened (job : Job) (current : Option Entity) : ∀ ns : List Node,
    (job.stepsOfAll current (Node.flattenedAll current.isSome ns)).filter Step.isAudible =
      (job.stepsOfAll current ns).filter Step.isAudible
  | [] => rfl
  | n :: ns => by
    rw [Node.flattenedAll, stepsOfAll_append, stepsOfAll, List.filter_append, List.filter_append,
      filter_stepsOf_flattened job current n, filter_stepsOfAll_flattened job current ns]

end

/-- A walk through the flattened template has the same records on all levels but that of
information, and ends the same way. -/
theorem without_walk_flattened (job : Job) (d : Document) :
    (job.walk d.flattened).without .information = (job.walk d).without .information := by
  have hsteps : (job.stepsOfAll none d.flattened.nodes).filter Step.isAudible =
      (job.stepsOfAll none d.nodes).filter Step.isAudible :=
    filter_stepsOfAll_flattened job none d.nodes
  rw [walk_eq_runSteps, walk_eq_runSteps, ← without_runSteps_filter, hsteps,
    without_runSteps_filter]

end Job

end Generation

/-! ### Runs of a generator -/

namespace Generator

/-- **Flattening keeps the meaning of a template**: what is left of it is flat, and whether the
cancel flag is up or down, it gives the same output or the same failure; on every level but that of
information it leaves the same log and so the same result. -/
theorem generateWith_flattened (g : Generator) (d : Document) (es : List Entity) :
    d.flattened.IsFlat ∧
      (g.generateWith d.flattened es).2.map (·.output) = (g.generateWith d es).2.map (·.output) ∧
      (g.config.loggingLevel ≠ .information →
        (g.generateWith d.flattened es).1.log = (g.generateWith d es).1.log ∧
          (g.generateWith d.flattened es).2 = (g.generateWith d es).2) := by
  have hrun : (running (g.job es) d.flattened).without .information =
      (running (g.job es) d).without .information := by
    rw [without_running, without_running, Generation.Job.without_walk_flattened]
  exact ⟨Template.Node.areFlat_flattenedAll false d.nodes, generateWith_eq_of_without rfl hrun⟩

/-- The flag is up and the entity node is empty once its containers are gone: the run is cancelled
before its first entity all the same. -/
theorem generateWith_flattened_cancelled :
    let d : Document := ⟨[.ignored "note", .attributeList (some "\x7b#attr (unknown)#\x7d"),
      .container [.literal "a", .container [.entity [.container [.attributeList none]]]]]⟩
    let g := (new { loggingLevel := .exception }).withFlag (some true)
    d.flattened = ⟨[.literal "a", .entity []]⟩ ∧ LogLevel.exception ≠ .information ∧
      (g.generateWith d.flattened [{ logicalName := "account" }]).1.log =
        (g.generateWith d [{ logicalName := "account" }]).1.log ∧
      (g.generateWith d [{ logicalName := "account" }]).1.log.text =
        "Exception: generation cancelled before entity 'account'\n" := by
  intro d g
  exact ⟨rfl, by decide, ((generateWith_flattened g d _).2.2 (by decide)).1, by decide +kernel⟩

end Generator

end EntityScript
