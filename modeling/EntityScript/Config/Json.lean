import EntityScript.Config.Basic
import EntityScript.Filter.Json

/-!
# Configurations as JSON

A configuration is an object of its settings. Those that are missing have their defaults.
-/

namespace EntityScript

open Json (Decoder Value Fault)
open Json.Decoder (RecordField)

/-- Reads a choice of entities. -/
def EntityTypes.decode : Decoder EntityTypes :=
  Decoder.oneOf ofName?

/-- A choice of entities as JSON. -/
def EntityTypes.encode (t : EntityTypes) : Value :=
  .string t.name

/-- Reads a log level. -/
def LogLevel.decode : Decoder LogLevel :=
  Decoder.oneOf ofName?

/-- A log level as JSON. -/
def LogLevel.encode (l : LogLevel) : Value :=
  .string l.name

namespace Config

/-- The fields of a configuration. -/
def fields : List (RecordField Config) := [
  .of ["module_name"] Decoder.string fun x c => { c with moduleName := x },
  .of ["module_notes"] Decoder.string fun x c => { c with moduleNotes := x },
  .of ["language_code"] Decoder.int32 fun x c => { c with languageCode := x },
  .of ["entity_types"] EntityTypes.decode fun x c => { c with entityTypes := x },
  .of ["include_virtual_attributes"] Decoder.bool
    fun x c => { c with includeVirtualAttributes := x },
  .of ["entity_filters"] Filter.RuleSet.decode fun x c => { c with entityFilters := x },
  .of ["attribute_filters"] Filter.RuleSet.decode fun x c => { c with attributeFilters := x },
  .of ["script_template"] Decoder.string fun x c => { c with scriptTemplate := x },
  .of ["logging_level"] LogLevel.decode fun x c => { c with loggingLevel := x }]

/-- Reads a configuration. -/
def decode : Decoder Config :=
  Decoder.record fields {}

/-- A configuration as JSON. -/
def encode (c : Config) : Value :=
  .object [
    ("module_name", .string c.moduleName),
    ("module_notes", .string c.moduleNotes),
    ("language_code", .int c.languageCode.toInt),
    ("entity_types", c.entityTypes.encode),
    ("include_virtual_attributes", .bool c.includeVirtualAttributes),
    ("entity_filters", c.entityFilters.encode),
    ("attribute_filters", c.attributeFilters.encode),
    ("script_template", .string c.scriptTemplate),
    ("logging_level", c.loggingLevel.encode)]

/-- The configuration that a JSON text gives. -/
def ofJson (s : String) : Except Fault Config :=
  Decoder.text decode s

end Config

end EntityScript
