import EntityScript.Proofs.Filter.Parts
import EntityScript.Proofs.Regex.Escaping

/-!
# Escaped patterns in rules

The pattern of a rule of regular expressions is lowered before it is compiled, escapes included, and
compiled without regard to case. In ASCII neither gets in the way of an escaped text: lowering
leaves its escapes in their places (`Regex.lower_escape`), and in a name that is in lower case as
well nothing is equal up to case to a small letter but the letter itself.

**Main statement**: the rule of an escaped pattern, if there is one, matches the names that the rule
of containment for the pattern matches (`Rule.matchesName_escape`).

Outside of ASCII it matches more: the long s is equal to `s` up to case, and lowering leaves it as
it is.
-/

namespace EntityScript

namespace Filter

open Unicode (CharSet)

namespace Rule

/-- The rule of a regular expression, where it can be made, has the expression of the lowered
pattern, and it can be made whenever there is such an expression. -/
theorem regEx_eq_ok_iff {p : String} {r : Rule} :
    regEx p = .ok r ↔
      ∃ e, Regex.compile? (Text.lower p.toList) = some e ∧ r = ⟨p, .regEx, some e⟩ := by
  rw [regEx, new, compile]
  cases Regex.compile? (Text.lower p.toList) with
  | none => exact iff_of_false nofun nofun
  | some e =>
    simp only [Except.map, Except.ok.injEq, Option.some.injEq, exists_eq_left', eq_comm]

/-- **An escaped pattern filters like plain text**: in ASCII the rule of the regular expression that
stands for a text matches exactly the names that contain the text. That the rule can be made is a
hypothesis, as a long pattern may be refused for its size. -/
theorem matchesName_escape {p name : String} (hp : Text.IsAscii p.toList)
    (hname : Text.IsAscii name.toList) {r : Rule}
    (h : regEx (String.ofList (Regex.escape p.toList)) = .ok r) :
    r.matchesName name = (contains p).matchesName name := by
  obtain ⟨e, he, rfl⟩ := regEx_eq_ok_iff.mp h
  rw [String.toList_ofList, Regex.lower_escape hp] at he
  rw [Bool.eq_iff_iff, matchesName_contains_iff]
  have hmatch := Regex.isMatch_escape_ascii_iff he hp.lower hname.lower
  rw [Text.map_toLower_lower hp, Text.map_toLower_lower hname] at hmatch
  exact hmatch

/-- A capital letter and a dot, escaped together. The dot stands for itself, and the letter for both
of its cases. -/
theorem matchesName_escape_dot :
    Text.IsAscii "A.".toList ∧ Text.IsAscii "Xa.y".toList ∧
      ∃ r, regEx (String.ofList (Regex.escape "A.".toList)) = .ok r ∧
        r.matchesName "Xa.y" = (contains "A.").matchesName "Xa.y" ∧
        (contains "A.").matchesName "Xa.y" = true := by
  have hletter : CharSet.orbit 0x61 = [(0x41, 0x41), (0x61, 0x61)] :=
    CharSet.orbit_eq_pair (by decide +kernel) (by decide +kernel) (by decide)
  have hdot : CharSet.orbit 0x2E = [(0x2E, 0x2E)] := by decide +kernel
  have hcompile : Regex.compile? (Regex.escape ['a', '.']) = _ := Regex.compile?_escape ['a', '.']
  simp only [List.map_cons, List.map_nil, Char.reduceToNat, hletter, hdot] at hcompile
  rw [if_pos (by decide +kernel)] at hcompile
  have hmade : regEx (String.ofList (Regex.escape "A.".toList)) = .ok ⟨"A\\.", .regEx, some _⟩ :=
    regEx_eq_ok_iff.mpr ⟨_, hcompile, rfl⟩
  exact ⟨by decide, by decide, _, hmade, matchesName_escape (by decide) (by decide) hmade,
    by decide +kernel⟩

end Rule

end Filter

end EntityScript
