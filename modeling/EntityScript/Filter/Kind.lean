import EntityScript.Text.Occurrence

/-!
# Match kinds

How the pattern of a rule is compared with a name: as plain text in one of four ways, or as a
regular expression.
-/

namespace EntityScript

namespace Filter

/-- How a pattern is compared with a name. -/
inductive MatchKind where
  | equals
  | contains
  | startsWith
  | endsWith
  /-- The pattern is a regular expression, found anywhere in the name. -/
  | regEx
deriving DecidableEq, Repr

namespace MatchKind

instance : Inhabited MatchKind :=
  ⟨contains⟩

/-- The name of a kind. -/
def name : MatchKind → String
  | equals => "Equals"
  | contains => "Contains"
  | startsWith => "StartsWith"
  | endsWith => "EndsWith"
  | regEx => "RegEx"

/-- All kinds. -/
def all : List MatchKind :=
  [equals, contains, startsWith, endsWith, regEx]

/-- The kind of a name; that of regular expressions has a second spelling. -/
def ofName? (s : String) : Option MatchKind :=
  if s = "Regex" then some regEx else all.find? (·.name == s)

/-- Every kind is read back from its name. So a saved rule keeps its kind. -/
theorem ofName?_name (k : MatchKind) : ofName? k.name = some k := by
  cases k <;> decide

/-- The pattern is compared as plain text. -/
def isLiteral (k : MatchKind) : Bool :=
  k != regEx

/-- The comparison of a name with a pattern as plain text; false for regular expressions. -/
def matchesLiteral : MatchKind → (name pattern : List Char) → Bool
  | equals, name, pattern => name == pattern
  | contains, name, pattern => Text.contains pattern name
  | startsWith, name, pattern => pattern.isPrefixOf name
  | endsWith, name, pattern => pattern.isSuffixOf name
  | regEx, _, _ => false

end MatchKind

end Filter

end EntityScript
