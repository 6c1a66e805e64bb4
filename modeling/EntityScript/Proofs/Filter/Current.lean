import EntityScript.Config.Format
import EntityScript.Proofs.Json.Decoding
import EntityScript.Proofs.Yaml.Decoding

/-!
# Current rules

A rule holds its expression beside the pattern and the kind from which it was compiled. It is
current (`Rule.IsCurrent`) when the expression is that of the pattern it has now and there is one
exactly for the kind of regular expressions. A current rule matches what its pattern and its kind
say and nothing else (**`Rule.IsCurrent.matchesName_eq`**).

Every way to come by a rule gives one that is current: the constructors, a change of a rule,
whether or not its pattern compiles and whatever the rule was before, and reading a rule, a set or
a configuration from JSON or YAML.
-/

namespace EntityScript

namespace Filter

/-! ### Current rules -/

/-- The expression that a pattern is compiled to, if it is well formed. -/
def expressionOf? (pattern : String) : Option Regex :=
  Regex.compile? (Text.lower pattern.toList)

/-- The names that a pattern matches in a kind of comparison. -/
def MatchKind.accepts (kind : MatchKind) (pattern name : String) : Bool :=
  match kind with
  | .regEx => (expressionOf? pattern).any (·.isMatch (Text.lower name.toList))
  | kind => kind.matchesLiteral (Text.lower name.toList) (Text.lower pattern.toList)

/-- A pattern compiles to an expression exactly when it has that expression. The fault of a pattern
that has none is left out here, as it carries the text of another library. -/
theorem compile_eq_ok_iff {pattern : String} {e : Regex} :
    compile pattern = .ok e ↔ expressionOf? pattern = some e := by
  rw [compile, expressionOf?]
  cases Regex.compile? (Text.lower pattern.toList) <;> simp

namespace Rule

/-- The rule has the expression of its pattern if its kind asks for one, and else none. -/
structure IsCurrent (r : Rule) : Prop where
  of_regEx : r.kind = .regEx → ∃ e, expressionOf? r.pattern = some e ∧ r.expression = some e
  of_literal : r.kind ≠ .regEx → r.expression = none

namespace IsCurrent

variable {r : Rule}

/-- Whether a current rule has an expression can be told from its kind alone. Only rules of one kind
search with an expression. -/
theorem isSome_iff (h : r.IsCurrent) : r.expression.isSome = true ↔ r.kind = .regEx := by
  by_cases hkind : r.kind = .regEx
  · obtain ⟨e, -, he⟩ := h.of_regEx hkind
    simp only [he, hkind, Option.isSome_some]
  · simp only [h.of_literal hkind, hkind, Option.isSome_none, Bool.false_eq_true]

/-- If a current rule has an expression at all, it is that of the pattern as it is now, and not one
of an earlier pattern. -/
theorem expressionOf?_eq (h : r.IsCurrent) {e : Regex} (he : r.expression = some e) :
    expressionOf? r.pattern = some e := by
  obtain ⟨e', hcompiled, he'⟩ := h.of_regEx (h.isSome_iff.mp (by rw [he, Option.isSome_some]))
  rw [hcompiled, ← he', he]

/-- A current rule matches the names that its pattern matches in its kind. The expression it carries
along is no longer mentioned, so two current rules of one pattern and kind match the same names. -/
theorem matchesName_eq (h : r.IsCurrent) (name : String) :
    r.matchesName name = r.kind.accepts r.pattern name := by
  unfold matchesName matchesLowered MatchKind.accepts
  cases hkind : r.kind with
  -- The other kinds compare texts and have no expression to look at.
  | regEx =>
    obtain ⟨e, hcompiled, he⟩ := h.of_regEx hkind
    simp only [hcompiled, he]
  | equals | contains | startsWith | endsWith => rfl

end IsCurrent

/-! ### Rules that are made or changed -/

/-- A rule of a kind that compares texts has no expression, and so it is current. The four of them
are made without anything that can fail. -/
theorem isCurrent_equals (pattern : String) : (equals pattern).IsCurrent :=
  ⟨(fun hkind => nomatch hkind), fun _ => rfl⟩

/-- A rule for parts of a name is current. It is also what a faulty pattern falls back to. Its
expression is the one that its kind and pattern ask for, namely none. -/
theorem isCurrent_contains (pattern : String) : (contains pattern).IsCurrent :=
  ⟨(fun hkind => nomatch hkind), fun _ => rfl⟩

theorem isCurrent_startsWith (pattern : String) : (startsWith pattern).IsCurrent :=
  ⟨(fun hkind => nomatch hkind), fun _ => rfl⟩

theorem isCurrent_endsWith (pattern : String) : (endsWith pattern).IsCurrent :=
  ⟨(fun hkind => nomatch hkind), fun _ => rfl⟩

/-- A rule that is given the expression of its own pattern is current, and this is the only place
where one comes by an expression. -/
theorem isCurrent_of_compile {pattern : String} {e : Regex} (h : compile pattern = .ok e) :
    IsCurrent ⟨pattern, .regEx, some e⟩ :=
  ⟨fun _ => ⟨e, compile_eq_ok_iff.mp h, rfl⟩, fun hkind => absurd rfl hkind⟩

/-- A rule that a constructor gives for a kind is current. The constructor gives none at all for a
pattern without an expression, so nothing has to be said about that case. -/
theorem isCurrent_of_new {pattern : String} {kind : MatchKind} {r : Rule}
    (h : new pattern kind = .ok r) : r.IsCurrent := by
  cases kind with
  | regEx =>
    obtain ⟨e, he, rfl⟩ := Json.Decoder.map_eq_ok_iff.mp h
    exact isCurrent_of_compile he
  | equals => exact Except.ok.inj h ▸ isCurrent_equals pattern
  | contains => exact Except.ok.inj h ▸ isCurrent_contains pattern
  | startsWith => exact Except.ok.inj h ▸ isCurrent_startsWith pattern
  | endsWith => exact Except.ok.inj h ▸ isCurrent_endsWith pattern

/-- Whatever the rule was before, and whether or not its pattern compiles, it is current after: with
a fault it is turned into a rule for parts of a name, and its old expression is dropped. -/
theorem isCurrent_recompile (r : Rule) : r.recompile.1.IsCurrent := by
  obtain ⟨pattern, kind, expression⟩ := r
  cases kind with
  | regEx =>
    -- The fault is reported beside the rule; what counts here is that the rule has changed its
    -- kind.
    cases he : compile pattern with
    | error fault =>
      simp only [recompile, he]
      exact isCurrent_contains pattern
    | ok e =>
      simp only [recompile, he]
      exact isCurrent_of_compile he
  | equals => exact isCurrent_equals pattern
  | contains => exact isCurrent_contains pattern
  | startsWith => exact isCurrent_startsWith pattern
  | endsWith => exact isCurrent_endsWith pattern

/-- A change of a rule. -/
inductive Change where
  | pattern (pattern : String)
  | kind (kind : MatchKind)

/-- The rule after a change, whether or not the change is reported as a fault. -/
def change (r : Rule) : Change → Rule
  | .pattern pattern => (r.setPattern pattern).1
  | .kind kind => (r.setKind kind).1

/-- Both changes of a rule end by compiling it again, so they leave it current. What the rule held
before that plays no part. -/
theorem isCurrent_change (r : Rule) (c : Change) : (r.change c).IsCurrent := by
  cases c <;> exact isCurrent_recompile _

/-! ### Rules that are read -/

/-- A rule that is read from JSON is current: it is compiled on its way in, and a pattern without an
expression downgrades it instead of failing the reading. -/
theorem isCurrent_of_decode {d : Json.Draft} {r : Rule} (h : decode d = .ok r) : r.IsCurrent := by
  obtain ⟨s, -, rfl⟩ := Json.Decoder.map_eq_ok_iff.mp h
  exact isCurrent_recompile _

theorem isCurrent_of_ofYaml {doc : Yaml.Document} {n : Yaml.Node} {r : Rule}
    (h : ofYaml doc n = some r) : r.IsCurrent := by
  obtain ⟨s, -, rfl⟩ := Option.map_eq_some_iff.mp h
  exact isCurrent_recompile _

end Rule

namespace RuleSet

/-- All rules of the set are current. -/
def IsCurrent (s : RuleSet) : Prop :=
  ∀ r ∈ s.rules, r.IsCurrent

theorem isCurrent_empty : empty.IsCurrent :=
  fun _ hr => absurd hr List.not_mem_nil

/-- A set that is read from JSON is current, as it is a list of rules that are read one by one. A
fault in any of them is a fault of the whole set. -/
theorem isCurrent_of_decode {d : Json.Draft} {s : RuleSet} (h : decode d = .ok s) :
    s.IsCurrent := by
  obtain ⟨rules, hrules, rfl⟩ := Json.Decoder.map_eq_ok_iff.mp h
  exact Json.Decoder.forall_mem_of_list Rule.isCurrent_of_decode hrules

/-- A set that is read from YAML is current, as it is a list of rules that are read one by one. This
is how rules get into a program from its settings. -/
theorem isCurrent_of_ofYaml {doc : Yaml.Document} {n : Yaml.Node} {s : RuleSet}
    (h : ofYaml doc n = some s) : s.IsCurrent := by
  obtain ⟨rules, hrules, rfl⟩ := Option.map_eq_some_iff.mp h
  exact Yaml.Decoder.forall_mem_of_list Rule.isCurrent_of_ofYaml hrules

end RuleSet

end Filter

open EntityScript.Filter (RuleSet)

/-! ### Configurations that are read -/

namespace Config

/-- The rules of the configuration are current. -/
structure HasCurrentRules (c : Config) : Prop where
  entityFilters : c.entityFilters.IsCurrent
  attributeFilters : c.attributeFilters.IsCurrent

/-- The rules that come with a configuration are current. Settings that a text leaves out are taken
from here, so this is where the induction over the settings of a text begins. -/
theorem hasCurrentRules_default : HasCurrentRules {} := by
  constructor <;>
    simp [RuleSet.IsCurrent, Filter.Rule.isCurrent_equals, Filter.Rule.isCurrent_contains]

/-- A configuration that is read from JSON has current rules, whichever of its settings the text
gives and however often: every setting that is read keeps this, and only two of them have rules. -/
theorem hasCurrentRules_of_decode {d : Json.Draft} {c : Config} (h : decode d = .ok c) :
    c.HasCurrentRules := by
  refine Json.Decoder.of_record (fun f hf => ?_) hasCurrentRules_default h
  simp only [fields, List.mem_cons, List.not_mem_nil, or_false] at hf
  rcases hf with rfl | rfl | rfl | rfl | rfl | rfl | rfl | rfl | rfl
  -- The filter of entities, and after it that of attributes; no other setting has rules.
  case inr.inr.inr.inr.inr.inl =>
    exact Json.Decoder.RecordField.keeps_of fun hx hc =>
      ⟨RuleSet.isCurrent_of_decode hx, hc.attributeFilters⟩
  case inr.inr.inr.inr.inr.inr.inl =>
    exact Json.Decoder.RecordField.keeps_of fun hx hc =>
      ⟨hc.entityFilters, RuleSet.isCurrent_of_decode hx⟩
  all_goals exact Json.Decoder.RecordField.keeps_of fun _ hc =>
    ⟨hc.entityFilters, hc.attributeFilters⟩

/-- A configuration that is read from YAML has current rules, by the same induction over its
settings. -/
theorem hasCurrentRules_of_ofYaml {doc : Yaml.Document} {n : Yaml.Node} {c : Config}
    (h : Yaml.Decoder.record yamlFields {} doc n = some c) : c.HasCurrentRules := by
  refine Yaml.Decoder.of_record (fun f hf => ?_) hasCurrentRules_default h
  simp only [yamlFields, List.mem_cons, List.not_mem_nil, or_false] at hf
  rcases hf with rfl | rfl | rfl | rfl | rfl | rfl | rfl | rfl | rfl
  -- As above, only the two filters have rules.
  case inr.inr.inr.inr.inr.inl =>
    exact Yaml.Decoder.RecordField.keeps_of fun hx hc =>
      ⟨RuleSet.isCurrent_of_ofYaml hx, hc.attributeFilters⟩
  case inr.inr.inr.inr.inr.inr.inl =>
    exact Yaml.Decoder.RecordField.keeps_of fun hx hc =>
      ⟨hc.entityFilters, RuleSet.isCurrent_of_ofYaml hx⟩
  all_goals exact Yaml.Decoder.RecordField.keeps_of fun _ hc =>
    ⟨hc.entityFilters, hc.attributeFilters⟩

end Config

/-! ### Texts -/

namespace ConfigFormat

variable {α : Type} {json : Json.Decoder α} {yaml : Yaml.Decoder α}

/-- What a text in a format gives, by the decoder for that format. -/
def decode? (json : Json.Decoder α) (yaml : Yaml.Decoder α) (f : ConfigFormat) (s : String) :
    Option α :=
  match f with
  | .json => (Json.Decoder.text json s).toOption
  | .yaml => (Yaml.Document.ofText? s).bind (Yaml.Decoder.document yaml)

/-- What holds of everything that either decoder gives holds of what a text in some format gives. So
the invariants of rules, sets and configurations need no more than one lemma for each decoder. -/
theorem of_decode? {P : α → Prop} (hjson : ∀ {d a}, json d = .ok a → P a)
    (hyaml : ∀ {doc n a}, yaml doc n = some a → P a) {f : ConfigFormat} {s : String} {a : α}
    (h : decode? json yaml f s = some a) : P a := by
  cases f with
  | json =>
    exact Json.Decoder.of_text hjson (Json.Decoder.toOption_eq_some_iff.mp h)
  | yaml =>
    obtain ⟨doc, -, hread⟩ := Option.bind_eq_some_iff.mp h
    exact hyaml hread

/-- A configuration is read by the decoder for its format. The texts of faults differ between the
formats and are forgotten here. -/
theorem toOption_read (f : ConfigFormat) (s : String) :
    (f.read s).toOption =
      f.decode? Config.decode (Yaml.Decoder.record Config.yamlFields {}) s := by
  cases f with
  | json =>
    simp only [read, Config.ofJson, decode?]
    cases Json.Decoder.text Config.decode s <;> rfl
  | yaml =>
    simp only [read, decode?]
    show _ = Config.ofYaml s
    cases Config.ofYaml s <;> rfl

end ConfigFormat

end EntityScript
