import EntityScript.Generation.Expansion

/-!
# The walk through a template

The nodes of a template are processed in their order, and their texts put together. An entity node
goes through all entities of the job, wherever it stands, and processes its children for each one
that is included; there the slugs of that entity are active, and those of no other. An attribute
list goes through the attributes of the current entity.
-/

namespace EntityScript

namespace Generation

open Metadata (Attribute Entity Scope)
open Template (Node)

/-- What a walk reads besides the template. -/
structure Job where
  config : Config
  entities : List Entity
  /-- The cancel flag, up or down, if there is one. -/
  flag : Option Bool := none

namespace Job

/-- There is a cancel flag, and it is up. -/
def cancelled (job : Job) : Bool :=
  job.flag.getD false

/-! ### Entities -/

/-- The run for an entity that the configuration includes. -/
def enter (job : Job) (body : Scope Entity → Run String) (e : Entity) : Run String := do
  .record .information ("Processing entity: " ++ e.logicalName)
  let scope := Scope.of e job.config.languageCode
  .recordAll .verbose (scope.values.map fun (name, value) =>
    "Property Name: " ++ name ++ ", Property Value: " ++ value)
  body scope

/-- The run for one entity. -/
def visit (job : Job) (body : Scope Entity → Run String) (e : Entity) : Run String :=
  -- The flag comes first: a cancelled run does not ask for filters any more.
  if job.cancelled then .fail (.cancelled e.logicalName)
  else if job.config.filtersEntity e.logicalName then do
    .record .information ("Skipping filtered entity: " ++ e.logicalName)
    pure ""
  else if !job.config.entityTypes.includes e then do
    .record .information ("Skipping entity outside of " ++ job.config.entityTypes.name ++
      " scope: " ++ e.logicalName)
    pure ""
  else job.enter body e

/-- The texts of the entities one after the other. -/
def visitAll (job : Job) (body : Scope Entity → Run String) : List Entity → Run String
  | [] => pure ""
  | e :: es => do
    let text ← job.visit body e
    let rest ← job.visitAll body es
    pure (text ++ rest)

/-! ### Attributes -/

/-- The fragment expanded for the attributes that the configuration includes. -/
def listAttributes (job : Job) (fragment : String) (scope : Scope Entity) :
    List Attribute → Run String
  | [] => pure ""
  | a :: as =>
    if job.config.includesAttribute a then do
      let scopes := ⟨some scope, some (Scope.of a job.config.languageCode)⟩
      let text ← expand job.config scopes fragment
      let rest ← job.listAttributes fragment scope as
      pure (text ++ rest)
    else job.listAttributes fragment scope as

/-- The text of an attribute list. -/
def attributeList (job : Job) (scope : Option (Scope Entity)) (fragment : Option String) :
    Run String :=
  match scope, fragment with
  | none, _ => do
    .record .information "Skipping attribute_list outside of an entity"
    pure ""
  | some _, none => pure ""
  | some scope, some fragment => job.listAttributes fragment scope scope.record.attributes

/-! ### Nodes -/

mutual

/-- The text of a node, given the current entity. -/
def node (job : Job) (scope : Option (Scope Entity)) (n : Node) : Run String := do
  .record .information ("Process node: " ++ n.name)
  match n with
  | .literal text => expand job.config ⟨scope, none⟩ text
  -- The whole list is gone through, also below another entity.
  | .entity children => job.visitAll (fun scope => job.nodes (some scope) children) job.entities
  | .attributeList fragment => job.attributeList scope fragment
  | .container children => job.nodes scope children
  | .ignored _ => pure ""

/-- The texts of nodes one after the other. -/
def nodes (job : Job) (scope : Option (Scope Entity)) : List Node → Run String
  | [] => pure ""
  | n :: ns => do
    let text ← job.node scope n
    let rest ← job.nodes scope ns
    pure (text ++ rest)

end

/-- The text that a template gives. -/
def walk (job : Job) (d : Template.Document) : Run String :=
  job.nodes none d.nodes

end Job

end Generation

end EntityScript
