import EntityScript.Filter.Kind
import EntityScript.Regex.Basic
import EntityScript.Text.Case

/-!
# Filter rules

A rule is a pattern with the way it is compared with names. Names and patterns are lowered before
they are compared. A rule of the kind of regular expressions carries its compiled expression;
where a change would leave it with a pattern that is no expression, the rule keeps the pattern and
goes over to plain containment.
-/

namespace EntityScript

namespace Filter

/-- The pattern is no regular expression. -/
structure InvalidRegex where
  pattern : String
deriving DecidableEq, Repr

namespace InvalidRegex

/-- The message of the fault, without what the reader of expressions has to say. -/
def message (e : InvalidRegex) : String :=
  "invalid regex pattern '" ++ e.pattern ++ "': "

end InvalidRegex

/-- The expression of a pattern, which is lowered as the patterns of all kinds are. -/
def compile (pattern : String) : Except InvalidRegex Regex :=
  match Regex.compile? (Text.lower pattern.toList) with
  | some r => .ok r
  | none => .error ⟨pattern⟩

/-- A rule that excludes names. -/
structure Rule where
  /-- The pattern as it was written. -/
  pattern : String
  kind : MatchKind
  /-- The compiled pattern of a rule of the kind of regular expressions. -/
  expression : Option Regex := none

namespace Rule

/-! ### Construction -/

/-- The rule of a pattern and a kind. -/
def new (pattern : String) (kind : MatchKind) : Except InvalidRegex Rule :=
  match kind with
  | .regEx => (compile pattern).map fun r => ⟨pattern, kind, some r⟩
  | _ => .ok ⟨pattern, kind, none⟩

/-- The rule of the names that equal a pattern. -/
def equals (pattern : String) : Rule :=
  ⟨pattern, .equals, none⟩

/-- The rule of the names that contain a pattern. -/
def contains (pattern : String) : Rule :=
  ⟨pattern, .contains, none⟩

/-- The rule of the names that start with a pattern. -/
def startsWith (pattern : String) : Rule :=
  ⟨pattern, .startsWith, none⟩

/-- The rule of the names that end with a pattern. -/
def endsWith (pattern : String) : Rule :=
  ⟨pattern, .endsWith, none⟩

/-- The rule of the names in which a regular expression is found. -/
def regEx (pattern : String) : Except InvalidRegex Rule :=
  new pattern .regEx

/-! ### Changes -/

/-- The rule with its pattern compiled anew, if its kind asks for that. On a fault the rule goes
over to containment. -/
def recompile (r : Rule) : Rule × Except InvalidRegex Unit :=
  match r.kind with
  | .regEx =>
    match compile r.pattern with
    | .ok e => ({ r with expression := some e }, .ok ())
    | .error fault => ({ r with kind := .contains, expression := none }, .error fault)
  | _ => ({ r with expression := none }, .ok ())

/-- The rule with another pattern, and whether its kind could be kept. -/
def setPattern (r : Rule) (pattern : String) : Rule × Except InvalidRegex Unit :=
  { r with pattern }.recompile

/-- The rule with another kind, and whether it could take that kind. -/
def setKind (r : Rule) (kind : MatchKind) : Rule × Except InvalidRegex Unit :=
  { r with kind }.recompile

/-- The rule of a stored pattern and kind. -/
def restore (pattern : String) (kind : MatchKind) : Rule :=
  (recompile ⟨pattern, kind, none⟩).1

/-! ### Matching -/

/-- The rule matches a name that is already in lower case. -/
def matchesLowered (r : Rule) (name : List Char) : Bool :=
  match r.kind with
  | .regEx => r.expression.any (·.isMatch name)
  | kind => kind.matchesLiteral name (Text.lower r.pattern.toList)

/-- The rule matches a name. -/
def matchesName (r : Rule) (name : String) : Bool :=
  r.matchesLowered (Text.lower name.toList)

/-! ### Comparison and display -/

/-- Rules are compared by pattern and kind. -/
instance : BEq Rule :=
  ⟨fun r s => r.pattern == s.pattern && r.kind == s.kind⟩

/-- The rule as text: its kind and its pattern. -/
def display (r : Rule) : String :=
  r.kind.name ++ ": " ++ r.pattern

instance : ToString Rule :=
  ⟨display⟩

end Rule

end Filter

end EntityScript
