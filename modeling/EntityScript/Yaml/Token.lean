/-!
# Tokens

The tokens of a YAML text. Collections in block style have a token at their start and one at their
end, although nothing is written there; a key has one before it, although only the colon after it
may show that it is one.
-/

namespace EntityScript

namespace Yaml

/-- How a scalar is written. -/
inductive ScalarStyle where
  | plain
  | singleQuoted
  | doubleQuoted
  | literal
  | folded
deriving DecidableEq, Repr

/-- A token. -/
inductive Token where
  | versionDirective (major minor : Nat)
  | tagDirective (handle : List Char) (replacement : List Char)
  | documentStart
  | documentEnd
  | blockSequenceStart
  | blockMappingStart
  | blockEnd
  | flowSequenceStart
  | flowSequenceEnd
  | flowMappingStart
  | flowMappingEnd
  | blockEntry
  | flowEntry
  | key
  | value
  | alias (name : List Char)
  | anchor (name : List Char)
  | tag (handle : List Char) (suffix : List Char)
  | scalar (style : ScalarStyle) (text : List Char)
deriving DecidableEq, Repr

end Yaml

end EntityScript
