import EntityScript.Filter.Json
import EntityScript.Yaml.Decode
import EntityScript.Yaml.Grammar
import EntityScript.Yaml.Value

/-!
# Rules as YAML

A rule is a mapping of its pattern and kind; a rule set is the sequence of its rules. They are read
as from JSON, with the same names.
-/

namespace EntityScript

namespace Filter

open Yaml (Decoder Value)
open Yaml.Decoder (RecordField)

/-- The fields of a stored rule. -/
def StoredRule.yamlFields : List (RecordField StoredRule) := [
  .require (.of patternNames Decoder.string fun x r => { r with pattern := x }),
  .of kindNames (Decoder.oneOf MatchKind.ofName?) fun x r => { r with kind := x }]

/-- Reads a rule. -/
def Rule.ofYaml : Decoder Rule := fun d n =>
  (Decoder.record StoredRule.yamlFields {} d n).map StoredRule.rule

/-- A rule as YAML. -/
def Rule.toYaml (r : Rule) : Value :=
  .mapping [("pattern", .text r.pattern), ("match_kind", .text r.kind.name)]

namespace RuleSet

/-- Reads a rule set. -/
def ofYaml : Decoder RuleSet := fun d n =>
  (Decoder.list Rule.ofYaml d n).map RuleSet.mk

/-- The rule set that a YAML text gives. -/
def ofYamlText (s : String) : Option RuleSet := do
  let d ← Yaml.Document.ofText? s
  Decoder.document ofYaml d

/-- A rule set as YAML. -/
def toYaml (s : RuleSet) : Value :=
  .sequence (s.rules.map Rule.toYaml)

end RuleSet

end Filter

end EntityScript
