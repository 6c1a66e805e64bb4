import EntityScript.Proofs.Filter.Changing
import EntityScript.Proofs.Filter.Editing
import EntityScript.Proofs.Json.Values

/-!
# Saving and loading rule sets

What is saved of a rule is its definition, the pattern and the kind, and the expression is compiled
anew when the rule is loaded. A current rule is the one that its definition gives
(`Rule.restore_of_isCurrent`), so nothing is lost; and as loading gives current rules only, what
loading changes in a definition it changes once.

**Main statement**: a set of reachable rules is read back from its text as it was, and so is every
set that any text gives (`RuleSet.text_decode_saved`).
-/

namespace EntityScript

namespace Filter

open Json (Value)
open Json.Decoder (text value)

namespace Rule

/-- **A current rule is the one that its definition gives**: its expression is what compiling its
pattern gives again, and a rule without one loses nothing. -/
theorem restore_of_isCurrent {r : Rule} (h : r.IsCurrent) : restore r.pattern r.kind = r := by
  obtain ⟨pattern, kind, expression⟩ := r
  cases kind with
  | regEx =>
    obtain ⟨e, hcompiled, he⟩ := h.of_regEx rfl
    dsimp only at hcompiled he
    simp only [restore, recompile, compile_eq_ok_iff.mpr hcompiled, he]
  | equals | contains | startsWith | endsWith =>
    exact congrArg (Rule.mk pattern _) (h.of_literal (by simp)).symm

end Rule

namespace RuleSet

variable {s : RuleSet}

/-- A set of current rules is read back from what is written of it, rule by rule and in the same
order. -/
theorem value_decode_encode (h : s.IsCurrent) : value decode s.encode = .ok s := by
  have hrules : value (Json.Decoder.list Rule.decode) s.encode = .ok s.rules := by
    refine Json.Decoder.value_list_eq_ok_iff.mpr (List.forall₂_map_left_iff.mpr ?_)
    refine List.forall₂_same.mpr fun r hr => ?_
    rw [Rule.value_decode_encode, Rule.restore_of_isCurrent (h r hr)]
  rw [value] at hrules
  rw [value, decode, hrules]
  rfl

/-- There are no numerals in what is written of a set, as there are none in its rules. This is what
reading back its compact text asks for. -/
theorem isWellFormed_encode (s : RuleSet) : s.encode.IsWellFormed := by
  have hitems : ∀ rules : List Rule, ∀ n ∈ Value.itemNumerals (rules.map Rule.encode),
      n.IsWellFormed := by
    intro rules
    induction rules with
    | nil => exact fun _ hn => absurd hn List.not_mem_nil
    | cons r rules ih => exact List.forall_mem_append.mpr ⟨r.isWellFormed_encode, ih⟩
  exact hitems s.rules

/-- A set of current rules is read back from its text, which is what is written of it without
blanks. -/
theorem text_decode_compact (h : s.IsCurrent) : text decode s.encode.compact = .ok s := by
  rw [Json.Decoder.text_compact decode s.isWellFormed_encode, value_decode_encode h]

/-- **Saving and loading loses nothing**: a set of rules that can be reached is read back from its
text as it was, the same rules in the same order and with their expressions, so it finds what it
found for every name. A set that is read from any text, whatever names that has for its fields and
whether or not its patterns are expressions, is read back from its own text without another
change. -/
theorem text_decode_saved :
    (∀ s : RuleSet, (∀ r ∈ s.rules, r.Reachable) → text decode s.encode.compact = .ok s) ∧
      ∀ (written : String) (s : RuleSet), text decode written = .ok s →
        text decode s.encode.compact = .ok s :=
  ⟨fun _ h => text_decode_compact fun r hr => (h r hr).isCurrent,
    fun _ _ h => text_decode_compact (Json.Decoder.of_text isCurrent_of_decode h)⟩

/-- An expression survives beside a pattern with characters that are escaped. Where a definition
with other names asks for an expression that there is not, the rule is one of containment from the
first time on. -/
theorem text_decode_saved_downgraded :
    let r := ((Rule.contains "^a").setKind .regEx).1
    let s : RuleSet := ⟨[r, .equals "\"\\\u0001é"]⟩
    let written := (Value.array [.object
      [("FilterString", .string "("), ("FilterMatchType", .string "Regex")]]).compact
    (∀ r ∈ s.rules, r.Reachable) ∧ text decode s.encode.compact = .ok s ∧
      text decode written = .ok ⟨[.contains "("]⟩ ∧
      text decode (encode ⟨[.contains "("]⟩).compact = .ok ⟨[.contains "("]⟩ := by
  intro r s written
  have hreachable : ∀ r ∈ s.rules, r.Reachable := by
    refine List.forall_mem_cons.mpr ⟨?_, List.forall_mem_singleton.mpr ?_⟩
    · exact ⟨1, [.make 0 (.contains "^a"), .change 0 0 (.kind .regEx)], ⟨[r]⟩,
        List.mem_singleton_self _, List.mem_singleton_self _⟩
    · exact ⟨1, [.make 0 (.equals "\"\\\u0001é")], ⟨[.equals "\"\\\u0001é"]⟩,
        List.mem_singleton_self _, List.mem_singleton_self _⟩
  have hrule : StoredRule.rule ⟨"(", .regEx⟩ = .contains "(" :=
    (Rule.isAsMade_restore "(" .regEx).of_error _ Rule.new_regEx_unclosed
  have hwritten : text decode written = .ok ⟨[.contains "("]⟩ := by
    rw [Json.Decoder.text_compact decode (fun _ hn => absurd hn List.not_mem_nil), ← hrule]
    rfl
  exact ⟨hreachable, text_decode_saved.1 s hreachable, hwritten,
    text_decode_saved.2 written _ hwritten⟩

end RuleSet

end Filter

end EntityScript
