import EntityScript.Filter.RuleSet
import EntityScript.Json.Decode

/-!
# Rules as JSON

A rule is an object of its pattern and kind; a rule set is the array of its rules. When a rule is
read, a pattern that is no regular expression makes it a rule of containment.
-/

namespace EntityScript

namespace Filter

open Json (Decoder Value)
open Json.Decoder (RecordField)

/-! ### Kinds -/

/-- Reads a match kind. -/
def MatchKind.decode : Decoder MatchKind :=
  Decoder.oneOf ofName?

/-- A match kind as JSON. -/
def MatchKind.encode (k : MatchKind) : Value :=
  .string k.name

/-! ### Rules -/

/-- What is stored of a rule. -/
structure StoredRule where
  pattern : String := ""
  kind : MatchKind := .contains
deriving DecidableEq, Repr

namespace StoredRule

/-- The names of the pattern, the one that is written first. -/
def patternNames : List String :=
  ["pattern", "FilterString"]

/-- The names of the kind, the one that is written first. -/
def kindNames : List String :=
  ["match_kind", "FilterMatchType"]

/-- The fields of a stored rule. -/
def fields : List (RecordField StoredRule) := [
  .require (.of patternNames Decoder.string fun x r => { r with pattern := x }),
  .of kindNames MatchKind.decode fun x r => { r with kind := x }]

/-- Reads a stored rule. -/
def decode : Decoder StoredRule :=
  Decoder.record fields {}

/-- The rule that was stored. -/
def rule (s : StoredRule) : Rule :=
  .restore s.pattern s.kind

end StoredRule

/-- Reads a rule. -/
def Rule.decode : Decoder Rule := fun d =>
  (StoredRule.decode d).map StoredRule.rule

/-- A rule as JSON. -/
def Rule.encode (r : Rule) : Value :=
  .object [("pattern", .string r.pattern), ("match_kind", r.kind.encode)]

/-! ### Sets -/

/-- Reads a rule set. -/
def RuleSet.decode : Decoder RuleSet := fun d =>
  (Decoder.list Rule.decode d).map RuleSet.mk

/-- A rule set as JSON. -/
def RuleSet.encode (s : RuleSet) : Value :=
  .list Rule.encode s.rules

end Filter

end EntityScript
