import EntityScript.Filter.RuleSet
import EntityScript.Generation.Log
import EntityScript.Metadata.Record

/-!
# Configurations

What a run depends on besides the template and the records: the texts of the project, the language
of labels, which records are left out, where the template is, and which messages are logged.
-/

namespace EntityScript

open EntityScript.Filter (Rule RuleSet)
open Metadata (Entity Attribute)

/-! ### Entity types -/

/-- The entities that a run includes. -/
inductive EntityTypes where
  | custom
  | system
  | both
deriving DecidableEq, Repr

namespace EntityTypes

instance : Inhabited EntityTypes :=
  ⟨both⟩

/-- The name of a choice. -/
def name : EntityTypes → String
  | custom => "Custom"
  | system => "System"
  | both => "Both"

/-- All choices. -/
def all : List EntityTypes :=
  [custom, system, both]

/-- The choice of a name; the last one has a second spelling. -/
def ofName? (s : String) : Option EntityTypes :=
  if s = "BothCustomAndSystem" then some both else all.find? (·.name == s)

/-- Every choice is read back from its name. So a saved configuration keeps its choices. -/
theorem ofName?_name (t : EntityTypes) : ofName? t.name = some t := by
  cases t <;> decide

/-- An entity is among those chosen. -/
def includes (t : EntityTypes) (e : Entity) : Bool :=
  match t with
  | custom => e.isCustom
  | system => !e.isCustom
  | both => true

end EntityTypes

/-! ### Configurations -/

/-- A configuration. -/
structure Config where
  moduleName : String := "MyProject"
  moduleNotes : String := "A CRM Typescript Project"
  languageCode : Int32 := 1033
  entityTypes : EntityTypes := .both
  includeVirtualAttributes : Bool := false
  /-- Rules on the logical names of entities. -/
  entityFilters : RuleSet := ⟨[.equals "syncerror", .contains "_bpf_"]⟩
  /-- Rules on the schema names of attributes. -/
  attributeFilters : RuleSet := ⟨[
    .equals "versionnumber",
    .contains "yominame",
    .equals "importsequencenumber",
    .equals "timezoneruleversionnumber",
    .equals "utcconversiontimezonecode",
    .contains "onbehalf",
    .equals "overriddencreatedon"]⟩
  /-- The path of the template. -/
  scriptTemplate : String := "template.xml"
  loggingLevel : LogLevel := .none
deriving BEq, Inhabited

namespace Config

/-- A rule excludes entities of this logical name. -/
def filtersEntity (c : Config) (logicalName : String) : Bool :=
  c.entityFilters.isFiltered logicalName

/-- A rule excludes attributes of this schema name. -/
def filtersAttribute (c : Config) (schemaName : String) : Bool :=
  c.attributeFilters.isFiltered schemaName

/-- A run takes the entity into account. -/
def includesEntity (c : Config) (e : Entity) : Bool :=
  !c.filtersEntity e.logicalName && c.entityTypes.includes e

/-- A run takes the attribute into account. -/
def includesAttribute (c : Config) (a : Attribute) : Bool :=
  !c.filtersAttribute a.schemaName && (!a.isVirtual || c.includeVirtualAttributes)

end Config

end EntityScript
