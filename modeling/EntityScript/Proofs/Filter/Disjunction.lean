import EntityScript.Config.Basic

/-!
# Filters as disjunctions

A rule set excludes exactly the names that one of its rules matches. From this follow, rule by
rule, which entities and attributes a configuration includes.

The rule that a set gives for a name is the first one that matches it (`RuleSet.IsFirstMatch`). So
the order of the rules decides which rule is given, and no more: sets of the same rules exclude the
same names.

**Main statement**: the first match is that of the least place, a name is excluded when there is
one, and sets put behind one another are asked in that order (`RuleSet.ordered_disjunction`).
-/

namespace EntityScript

open Metadata (Attribute Entity)

namespace Filter

namespace RuleSet

/-- A set excludes a name when one of its rules matches it. Which of them that is, and how many do,
is no longer seen. -/
theorem isFiltered_eq_any (s : RuleSet) (name : String) :
    s.isFiltered name = s.rules.any (·.matchesName name) := by
  rw [isFiltered, firstMatch, Bool.eq_iff_iff, List.find?_isSome, List.any_eq_true]
  rfl

/-! ### The first match -/

/-- The rules of one set, and then those of another. -/
instance : Append RuleSet :=
  ⟨fun s t => ⟨s.rules ++ t.rules⟩⟩

@[simp] theorem rules_append (s t : RuleSet) : (s ++ t).rules = s.rules ++ t.rules := rfl

/-- The rule at the place matches the name, and none before it does. -/
structure IsFirstMatch (s : RuleSet) (name : String) (i : Nat) (r : Rule) : Prop where
  rule_eq : s.rules[i]? = some r
  isMatch : r.matchesName name = true
  least : ∀ j < i, ∀ q, s.rules[j]? = some q → q.matchesName name = false

variable (s t : RuleSet) (name : String)

/-- To lower the name once for all rules is to lower it for each, so a set can be taken for a list
of rules that each look at the name by themselves. -/
theorem firstMatch_eq_find? : s.firstMatch name = s.rules.find? (·.matchesName name) :=
  rfl

/-- The rule that a set gives is the one at the least place where a rule matches, and if there is
such a place, a rule is given. -/
theorem firstMatch_eq_some_iff (r : Rule) :
    s.firstMatch name = some r ↔ ∃ i, s.IsFirstMatch name i r := by
  -- The library states this with places that are known to exist, `IsFirstMatch` by looking them up.
  rw [firstMatch_eq_find?, List.find?_eq_some_iff_getElem]
  constructor
  · rintro ⟨hmatch, i, hi, hr, hleast⟩
    refine ⟨i, hr ▸ List.getElem?_eq_getElem hi, hmatch, fun j hj q hq => ?_⟩
    obtain ⟨hj', rfl⟩ := List.getElem?_eq_some_iff.mp hq
    exact Bool.not_eq_true' _ ▸ hleast j hj
  · rintro ⟨i, hrule, hmatch, hleast⟩
    obtain ⟨hi, hr⟩ := List.getElem?_eq_some_iff.mp hrule
    refine ⟨hmatch, i, hi, hr, fun j hj => ?_⟩
    rw [hleast j hj _ (List.getElem?_eq_getElem (Nat.lt_trans hj hi)), Bool.not_false]

theorem firstMatch_append :
    (s ++ t).firstMatch name = (s.firstMatch name).or (t.firstMatch name) := by
  simp only [firstMatch_eq_find?, rules_append, List.find?_append]

theorem isFiltered_append :
    (s ++ t).isFiltered name = (s.isFiltered name || t.isFiltered name) := by
  simp only [isFiltered_eq_any, rules_append, List.any_append]

/-- Neither the order of the rules nor how often they are in the set matters for what is excluded.
It does matter for the rule that is given. -/
theorem isFiltered_congr {s t : RuleSet} (h : ∀ r, r ∈ t.rules ↔ r ∈ s.rules) :
    t.isFiltered name = s.isFiltered name := by
  rw [isFiltered_eq_any, isFiltered_eq_any, Bool.eq_iff_iff, List.any_eq_true, List.any_eq_true]
  simp only [h]

/-- **A rule set is the ordered disjunction of its rules**, whatever their kinds: it gives the first
rule that matches, excludes a name if there is one, and takes up further rules behind its own. -/
theorem ordered_disjunction :
    (∀ r, s.firstMatch name = some r ↔ ∃ i, s.IsFirstMatch name i r) ∧
    (s.isFiltered name = true ↔ ∃ i r, s.IsFirstMatch name i r) ∧
    (∀ t : RuleSet, (∀ r, r ∈ t.rules ↔ r ∈ s.rules) → t.isFiltered name = s.isFiltered name) ∧
    (∀ t, (s ++ t).isFiltered name = (s.isFiltered name || t.isFiltered name)) ∧
    ∀ t, (s ++ t).firstMatch name = (s.firstMatch name).or (t.firstMatch name) := by
  refine ⟨firstMatch_eq_some_iff s name, ?_, fun _ => isFiltered_congr name,
    fun t => isFiltered_append s t name, fun t => firstMatch_append s t name⟩
  rw [isFiltered, Option.isSome_iff_exists]
  simp only [firstMatch_eq_some_iff]
  exact exists_comm

/-- Two rules, and the same two in the other order with one of them twice. The first match moves
with the order, and the answer stays the same. -/
theorem ordered_disjunction_repeated :
    let s : RuleSet := ⟨[.contains "name", .equals "YomiName"]⟩
    let t : RuleSet := ⟨[.equals "YomiName", .contains "name", .equals "YomiName"]⟩
    (∀ r, r ∈ t.rules ↔ r ∈ s.rules) ∧ t.isFiltered "yominame" = s.isFiltered "yominame" := by
  intro s t
  have hrules : ∀ r, r ∈ t.rules ↔ r ∈ s.rules := by
    intro r
    simp only [s, t, List.mem_cons, List.not_mem_nil, or_false]
    constructor
    · rintro (rfl | rfl | rfl)
      · exact .inr rfl
      · exact .inl rfl
      · exact .inr rfl
    · rintro (rfl | rfl)
      · exact .inr (.inl rfl)
      · exact .inl rfl
  exact ⟨hrules, (ordered_disjunction s "yominame").2.2.1 t hrules⟩

end RuleSet

end Filter

namespace Config

theorem filtersEntity_eq_true_iff {c : Config} {logicalName : String} :
    c.filtersEntity logicalName = true ↔
      ∃ rule ∈ c.entityFilters.rules, rule.matchesName logicalName = true := by
  rw [filtersEntity, Filter.RuleSet.isFiltered_eq_any, List.any_eq_true]

theorem includesEntity_eq (c : Config) (e : Entity) :
    c.includesEntity e =
      (c.entityFilters.rules.all (!·.matchesName e.logicalName) && c.entityTypes.includes e) := by
  simp only [includesEntity, filtersEntity, Filter.RuleSet.isFiltered_eq_any,
    List.not_any_eq_all_not]

/-- An attribute is included when no rule matches its schema name and it is not virtual, or virtual
attributes are asked for. -/
theorem includesAttribute_eq (c : Config) (a : Attribute) :
    c.includesAttribute a =
      (c.attributeFilters.rules.all (!·.matchesName a.schemaName) &&
        (!a.isVirtual || c.includeVirtualAttributes)) := by
  simp only [includesAttribute, filtersAttribute, Filter.RuleSet.isFiltered_eq_any,
    List.not_any_eq_all_not]

end Config

end EntityScript
