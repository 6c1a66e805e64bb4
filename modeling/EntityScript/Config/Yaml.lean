import EntityScript.Config.Basic
import EntityScript.Filter.Yaml

/-!
# Configurations as YAML

A configuration is a mapping of its settings. Those that are missing have their defaults; all of
them are written.
-/

namespace EntityScript

namespace Config

open Yaml (Decoder Value)
open Yaml.Decoder (RecordField)

/-- The fields of a configuration. -/
def yamlFields : List (RecordField Config) := [
  .of ["module_name"] Decoder.string fun x c => { c with moduleName := x },
  .of ["module_notes"] Decoder.string fun x c => { c with moduleNotes := x },
  .of ["language_code"] Decoder.int32 fun x c => { c with languageCode := x },
  .of ["entity_types"] (Decoder.oneOf EntityTypes.ofName?) fun x c => { c with entityTypes := x },
  .of ["include_virtual_attributes"] Decoder.bool
    fun x c => { c with includeVirtualAttributes := x },
  .of ["entity_filters"] Filter.RuleSet.ofYaml fun x c => { c with entityFilters := x },
  .of ["attribute_filters"] Filter.RuleSet.ofYaml fun x c => { c with attributeFilters := x },
  .of ["script_template"] Decoder.string fun x c => { c with scriptTemplate := x },
  .of ["logging_level"] (Decoder.oneOf LogLevel.ofName?) fun x c => { c with loggingLevel := x }]

/-- The configuration that a YAML text gives. -/
def ofYaml (s : String) : Option Config := do
  let d ← Yaml.Document.ofText? s
  Decoder.document (Decoder.record yamlFields {}) d

/-- A configuration as a YAML document. -/
def toYaml (c : Config) : String :=
  Value.document [
    ("module_name", .text c.moduleName),
    ("module_notes", .text c.moduleNotes),
    ("language_code", .int c.languageCode.toInt),
    ("entity_types", .text c.entityTypes.name),
    ("include_virtual_attributes", .bool c.includeVirtualAttributes),
    ("entity_filters", c.entityFilters.toYaml),
    ("attribute_filters", c.attributeFilters.toYaml),
    ("script_template", .text c.scriptTemplate),
    ("logging_level", .text c.loggingLevel.name)]

end Config

end EntityScript
