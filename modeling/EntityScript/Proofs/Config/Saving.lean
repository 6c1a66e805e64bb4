import EntityScript.Proofs.Filter.Editing
import EntityScript.Proofs.Filter.Saving
import EntityScript.Proofs.Yaml.Values

/-!
# Saving and loading configurations

Every setting of a configuration is written under the name of its field, whether or not it has its
default (`Config.writes_yamlMembers`), so reading what is written replaces every default. Of a rule
the pattern and the kind are written; a current rule is the one that these give.

**Main statement**: a configuration with rules that can be reached is read back from its text as it
was (`Config.ofYaml_toYaml_of_reachable`).
-/

namespace EntityScript

open Yaml (Document Value)
open Yaml.Decoder
open Yaml.Value (AreReadable HaveReadable IsKeyword IsReadable isReadable_bool isReadable_int
  isReadable_text)

namespace Filter

/-! ### Rules -/

namespace Rule

instance : ReflBEq Rule where
  rfl {r} := by
    show (r.pattern == r.pattern && r.kind == r.kind) = true
    rw [beq_self_eq_true, beq_self_eq_true, Bool.and_true]

/-- What is written of a rule is a mapping of two texts under plain words, and can be read. Its
pattern may be any text, as a text is quoted where that is needed. -/
theorem isReadable_toYaml (r : Rule) : r.toYaml.IsReadable := by
  have hpattern : IsKeyword "pattern" := by decide
  have hkind : IsKeyword "match_kind" := by decide
  rw [toYaml, IsReadable, HaveReadable, HaveReadable, HaveReadable]
  exact ⟨List.cons_ne_nil _ _, ⟨hpattern, isReadable_text _⟩, ⟨hkind, isReadable_text _⟩, trivial⟩

/-- What is read of a rule that is written is the rule that its pattern and its kind give. The
document plays no part, as nothing that is written refers to another place in it. -/
theorem ofYaml_toYaml {doc : Document} (r : Rule) :
    ofYaml doc r.toYaml.node = some (restore r.pattern r.kind) := by
  have hstored : record StoredRule.yamlFields {} doc r.toYaml.node =
      some ⟨r.pattern, r.kind⟩ := by
    refine record_mapping (by decide) ?_
    refine .cons (by decide) (read_require_of (string_text r.pattern) _) ?_
    refine .cons (by decide) (read_of ((oneOf_text _ _).trans r.kind.ofName?_name) _) ?_
    exact .nil _
  rw [ofYaml, hstored]
  rfl

end Rule

/-! ### Sets -/

namespace RuleSet

variable {s : RuleSet}

instance : ReflBEq RuleSet where
  rfl {s} := beq_self_eq_true s.rules

/-- What is written of a set is a sequence of rules, each of which can be read. An empty set is
written as an empty sequence. -/
theorem isReadable_toYaml (s : RuleSet) : s.toYaml.IsReadable := by
  have hitems : ∀ rules : List Rule, AreReadable (rules.map Rule.toYaml) := by
    intro rules
    induction rules with
    | nil =>
      rw [List.map_nil, AreReadable]
      trivial
    | cons r rules ih =>
      rw [List.map_cons, AreReadable]
      exact ⟨⟨trivial, r.isReadable_toYaml⟩, ih⟩
  rw [toYaml, IsReadable]
  exact hitems s.rules

/-- A set of current rules is read back from what is written of it, rule by rule. The rules are
compiled again as they are read, which changes nothing in a current one. -/
theorem ofYaml_toYaml {doc : Document} (h : s.IsCurrent) : ofYaml doc s.toYaml.node = some s := by
  have hrules : list Rule.ofYaml doc s.toYaml.node = some s.rules := by
    refine list_sequence (List.forall₂_map_left_iff.mpr ?_)
    refine List.forall₂_same.mpr fun r hr => ?_
    rw [Rule.ofYaml_toYaml, Rule.restore_of_isCurrent (h r hr)]
  rw [ofYaml, hrules]
  rfl

end RuleSet

end Filter

/-! ### Configurations -/

namespace Config

variable {c : Config}

instance : ReflBEq Config where
  rfl {c} := by
    have hfilters (s : Filter.RuleSet) : (s == s) = true := beq_self_eq_true s
    simp only [BEq.beq] at hfilters
    simp [BEq.beq, instBEqConfig.beq, hfilters]

/-- The members of the document of a configuration. -/
def yamlMembers (c : Config) : List (String × Value) := [
  ("module_name", .text c.moduleName),
  ("module_notes", .text c.moduleNotes),
  ("language_code", .int c.languageCode.toInt),
  ("entity_types", .text c.entityTypes.name),
  ("include_virtual_attributes", .bool c.includeVirtualAttributes),
  ("entity_filters", c.entityFilters.toYaml),
  ("attribute_filters", c.attributeFilters.toYaml),
  ("script_template", .text c.scriptTemplate),
  ("logging_level", .text c.loggingLevel.name)]

/-- Every setting can be read as it is written: the names of the fields are plain words, and the
values are texts, numbers, truth values and sequences of rules. -/
theorem haveReadable_yamlMembers (c : Config) : HaveReadable c.yamlMembers := by
  rw [yamlMembers]
  iterate 10 rw [HaveReadable]
  exact ⟨⟨by decide, isReadable_text _⟩, ⟨by decide, isReadable_text _⟩,
    ⟨by decide, isReadable_int _⟩, ⟨by decide, isReadable_text _⟩, ⟨by decide, isReadable_bool _⟩,
    ⟨by decide, c.entityFilters.isReadable_toYaml⟩,
    ⟨by decide, c.attributeFilters.isReadable_toYaml⟩,
    ⟨by decide, isReadable_text _⟩, ⟨by decide, isReadable_text _⟩, trivial⟩

/-- **Every setting is written under the name of its field**, and reading them all leaves nothing of
the defaults. There is one step for each field, in the order in which the fields are written. -/
theorem writes_yamlMembers (h : c.HasCurrentRules) (doc : Document) :
    Writes doc yamlFields c.yamlMembers {} c := by
  refine .cons (by decide) (read_of (string_text c.moduleName) _) ?_
  refine .cons (by decide) (read_of (string_text c.moduleNotes) _) ?_
  refine .cons (by decide) (read_of (int32_int c.languageCode) _) ?_
  refine .cons (by decide) (read_of ((oneOf_text _ _).trans c.entityTypes.ofName?_name) _) ?_
  refine .cons (by decide) (read_of (bool_bool c.includeVirtualAttributes) _) ?_
  refine .cons (by decide) (read_of (Filter.RuleSet.ofYaml_toYaml h.entityFilters) _) ?_
  refine .cons (by decide) (read_of (Filter.RuleSet.ofYaml_toYaml h.attributeFilters) _) ?_
  refine .cons (by decide) (read_of (string_text c.scriptTemplate) _) ?_
  refine .cons (by decide) (read_of ((oneOf_text _ _).trans c.loggingLevel.ofName?_name) _) ?_
  exact .nil _

theorem ofYaml_toYaml (h : c.HasCurrentRules) : ofYaml c.toYaml = some c :=
  document_record (by decide) (List.cons_ne_nil _ _) c.haveReadable_yamlMembers
    (writes_yamlMembers h)

/-- A configuration that a text in either format gives is saved and loaded without another change,
whatever the text leaves out and whether or not its patterns are expressions. -/
theorem ofYaml_toYaml_of_read {f : ConfigFormat} {s : String} (h : f.read s = .ok c) :
    ofYaml c.toYaml = some c := by
  have hread := f.toOption_read s
  rw [h] at hread
  exact ofYaml_toYaml
    (ConfigFormat.of_decode? hasCurrentRules_of_decode hasCurrentRules_of_ofYaml hread.symm)

/-- **Configurations survive being saved and loaded**: where the rules of both filters can be
reached, what is read from the text of a configuration is that configuration, with every setting and
every rule with its expression. So it compares equal and excludes the same names. -/
theorem ofYaml_toYaml_of_reachable (c : Config)
    (hentities : ∀ r ∈ c.entityFilters.rules, r.Reachable)
    (hattributes : ∀ r ∈ c.attributeFilters.rules, r.Reachable) :
    ofYaml c.toYaml = some c ∧ (c == c) = true :=
  ⟨ofYaml_toYaml ⟨fun r hr => (hentities r hr).isCurrent, fun r hr => (hattributes r hr).isCurrent⟩,
    beq_self_eq_true c⟩

/-- No text is mistaken for an indicator, a number or nothing at all, an emptied set of rules is not
filled with the default ones, and a rule keeps what a change has made of it. -/
theorem ofYaml_toYaml_of_reachable_quoted :
    let r := ((Filter.Rule.contains "^a: #\n").setKind .regEx).1
    let c : Config := {
      moduleName := "- \"x\": 'y' #\n\n  é😀\t\u2028"
      moduleNotes := ""
      languageCode := -7
      entityTypes := .custom
      includeVirtualAttributes := true
      entityFilters := ⟨[r, .equals "~", .endsWith " 1e3"]⟩
      attributeFilters := ⟨[]⟩
      scriptTemplate := "0x1F"
      loggingLevel := .verbose }
    (∀ r ∈ c.entityFilters.rules, r.Reachable) ∧ (∀ r ∈ c.attributeFilters.rules, r.Reachable) ∧
      ofYaml c.toYaml = some c ∧ (c == c) = true := by
  intro r c
  have hentities : ∀ r ∈ c.entityFilters.rules, r.Reachable := by
    refine List.forall_mem_cons.mpr
      ⟨?_, List.forall_mem_cons.mpr ⟨?_, List.forall_mem_singleton.mpr ?_⟩⟩
    · exact ⟨1, [.make 0 (.contains "^a: #\n"), .change 0 0 (.kind .regEx)], ⟨[r]⟩,
        List.mem_singleton_self _, List.mem_singleton_self _⟩
    · exact ⟨1, [.make 0 (.equals "~")], ⟨[.equals "~"]⟩,
        List.mem_singleton_self _, List.mem_singleton_self _⟩
    · exact ⟨1, [.make 0 (.endsWith " 1e3")], ⟨[.endsWith " 1e3"]⟩,
        List.mem_singleton_self _, List.mem_singleton_self _⟩
  have hattributes : ∀ r ∈ c.attributeFilters.rules, r.Reachable :=
    fun _ hr => absurd hr List.not_mem_nil
  exact ⟨hentities, hattributes, ofYaml_toYaml_of_reachable c hentities hattributes⟩

end Config

end EntityScript
