import EntityScript.Filter.Rule
import EntityScript.Proofs.Text.Lowering

/-!
# Rules from parts of names

A rule made from a part of a name is meant to match that name. Name and pattern are lowered each by
itself, so the part is found when it is lowered at its place as it is by itself: when its capital
sigmas keep their form there (`Text.KeepsSigmas`), as they do in a pattern without any.

**Main statement**: a rule of equality matches the name it is made from; a rule made from the start
or the end of a name matches it exactly under that condition, a rule of containment whenever it
holds, and in every name exactly when the sigmas of the pattern keep their form everywhere
(`Rule.matchesName_append`).

The condition can fail: no rule made from the final sigma of a name matches that name.
-/

namespace EntityScript

namespace Filter

open Text (KeepsSigmas)

namespace Rule

/-! ### Literal rules as relations of texts -/

theorem matchesName_equals_iff {p name : String} :
    (equals p).matchesName name = true ↔ Text.lower name.toList = Text.lower p.toList :=
  beq_iff_eq

/-- A rule for the start of a name compares the lowered pattern with the start of the lowered
name. -/
theorem matchesName_startsWith_iff {p name : String} :
    (startsWith p).matchesName name = true ↔ Text.lower p.toList <+: Text.lower name.toList :=
  List.isPrefixOf_iff_prefix

theorem matchesName_endsWith_iff {p name : String} :
    (endsWith p).matchesName name = true ↔ Text.lower p.toList <:+ Text.lower name.toList :=
  List.isSuffixOf_iff_suffix

/-- A rule of containment looks for the lowered pattern anywhere in the lowered name. Both are
lowered by themselves, so a sigma at the end of either may differ from the one it stands for. -/
theorem matchesName_contains_iff {p name : String} :
    (contains p).matchesName name = true ↔ Text.lower p.toList <:+: Text.lower name.toList := by
  refine Text.contains_iff.trans ⟨?_, ?_⟩
  · rintro ⟨u, v, h⟩
    exact ⟨u, v, h.symm⟩
  · rintro ⟨u, v, h⟩
    exact ⟨u, v, h.symm⟩

/-! ### Parts of a name -/

/-- A rule of containment matches all names its pattern is a part of exactly when the sigmas of the
pattern keep their form at every place. Names are texts here and lists of characters there, which is
all that this adds to `Text.forall_lower_isInfix_iff`. -/
theorem forall_matchesName_contains_iff {p : String} :
    (∀ u v : String, (contains p).matchesName (u ++ p ++ v) = true) ↔
      ∀ u v, KeepsSigmas u p.toList v := by
  rw [← Text.forall_lower_isInfix_iff]
  simp only [matchesName_contains_iff, String.toList_append]
  constructor
  · intro h u v
    simpa only [String.toList_ofList] using h (String.ofList u) (String.ofList v)
  · intro h u v
    exact h u.toList v.toList

/-- **Any part of a name filters it** where the part is lowered as in the name. For the start and
the end of a name this condition is exact, and for containment it is so over all names at once: a
name by itself may have the part at another place as well. Without capital sigmas it always
holds. -/
theorem matchesName_append (u p v : String) :
    (equals p).matchesName p = true ∧
    ((startsWith p).matchesName (p ++ v) = true ↔ KeepsSigmas [] p.toList v.toList) ∧
    ((endsWith p).matchesName (u ++ p) = true ↔ KeepsSigmas u.toList p.toList []) ∧
    (KeepsSigmas u.toList p.toList v.toList → (contains p).matchesName (u ++ p ++ v) = true) ∧
    ((∀ u v : String, (contains p).matchesName (u ++ p ++ v) = true) ↔
      ∀ u v, KeepsSigmas u p.toList v) ∧
    ('Σ' ∉ p.toList → ∀ u v, KeepsSigmas u p.toList v) := by
  refine ⟨matchesName_equals_iff.mpr rfl, ?_, ?_, fun h => ?_, forall_matchesName_contains_iff,
    Text.keepsSigmas_of_not_mem⟩
  · rw [matchesName_startsWith_iff, String.toList_append]
    exact Text.lower_isPrefix_iff
  · rw [matchesName_endsWith_iff, String.toList_append]
    exact Text.lower_isSuffix_iff
  · rw [matchesName_contains_iff, String.toList_append, String.toList_append]
    exact Text.lower_isInfix h

theorem matchesName_final_sigma :
    "ΑΣ" = "Α" ++ "Σ" ++ "" ∧ (contains "Σ").matchesName "ΑΣ" = false ∧
      (endsWith "Σ").matchesName "ΑΣ" = false := by
  decide +kernel

end Rule

end Filter

end EntityScript
