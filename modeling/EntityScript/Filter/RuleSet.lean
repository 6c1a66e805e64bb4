import EntityScript.Filter.Rule

/-!
# Rule sets

An ordered set of rules excludes a name when one of its rules matches it. The name is lowered once
for all rules.
-/

namespace EntityScript

namespace Filter

/-- Rules in the order in which they are tried. -/
structure RuleSet where
  rules : List Rule := []
deriving BEq, Inhabited

namespace RuleSet

/-- The set without rules. -/
def empty : RuleSet :=
  {}

/-- The set with one more rule at its end. -/
def push (s : RuleSet) (r : Rule) : RuleSet :=
  ⟨s.rules ++ [r]⟩

/-- The number of rules. -/
def size (s : RuleSet) : Nat :=
  s.rules.length

/-- The set has no rules. -/
def isEmpty (s : RuleSet) : Bool :=
  s.rules.isEmpty

/-- The first rule that matches a name. -/
def firstMatch (s : RuleSet) (name : String) : Option Rule :=
  let lowered := Text.lower name.toList
  s.rules.find? (·.matchesLowered lowered)

/-- The set excludes a name. -/
def isFiltered (s : RuleSet) (name : String) : Bool :=
  (s.firstMatch name).isSome

/-! ### Rules by place -/

/-- The set with the rule at a place changed. -/
def modify (s : RuleSet) (i : Nat) (f : Rule → Rule) : RuleSet :=
  ⟨s.rules.modify i f⟩

/-- The set without the rule at a place. -/
def erase (s : RuleSet) (i : Nat) : RuleSet :=
  ⟨s.rules.eraseIdx i⟩

/-- The set with the rules at two places exchanged, if there are rules at both. -/
def exchange? (s : RuleSet) (i j : Nat) : Option RuleSet := do
  let a ← s.rules[i]?
  let b ← s.rules[j]?
  some ⟨(s.rules.set i b).set j a⟩

end RuleSet

end Filter

end EntityScript
