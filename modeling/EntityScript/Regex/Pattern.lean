/-!
# Patterns

The grammar of regular expressions as a tree, before any of it has a meaning: what is written, with
flags where they stand and properties by their names. `depth` counts the nested parts of a pattern,
which may not be nested too deeply.
-/

namespace EntityScript

namespace Regex

/-- A flag that changes how the rest of a group is read. -/
inductive Flag where
  | caseInsensitive
  | multiLine
  | dotMatchesNewLine
  | swapGreed
  | unicode
  | carriageReturn
  | ignoreSpace
deriving DecidableEq, Repr

/-- Flags that are turned on or off, in order. -/
abbrev FlagChange := List (Flag × Bool)

/-- A character of a pattern; `isByte` if it is written as a byte, with two hexadecimal digits. -/
structure Literal where
  char : Char
  isByte : Bool := false
deriving DecidableEq, Repr

/-- A condition on a place in the text. -/
inductive Assertion where
  | startLine
  | endLine
  | startText
  | endText
  | wordBoundary
  | notWordBoundary
  | wordStart
  | wordEnd
  | wordStartHalf
  | wordEndHalf
deriving DecidableEq, Repr

/-- The classes with a letter of their own. -/
inductive PerlClass where
  | digit
  | space
  | word
deriving DecidableEq, Repr

/-- A property by its name, or by its name and value. -/
inductive PropertyQuery where
  | named (name : String)
  | valued (name value : String)
deriving DecidableEq, Repr

/-- An operation on the sets of a bracketed class. -/
inductive SetOp where
  | intersection
  | difference
  | symmetricDifference
deriving DecidableEq, Repr

/-- What stands in a bracketed class. -/
inductive SetExpr where
  | empty
  | literal (l : Literal)
  | range (first last : Literal)
  | ascii (negated : Bool) (ranges : List (Nat × Nat))
  | property (negated : Bool) (query : PropertyQuery)
  | perl (negated : Bool) (c : PerlClass)
  | bracketed (negated : Bool) (inner : SetExpr)
  | union (items : List SetExpr)
  | binary (op : SetOp) (lhs rhs : SetExpr)
deriving Repr

/-- A pattern. -/
inductive Pattern where
  | empty
  | flags (change : FlagChange)
  | literal (l : Literal)
  | dot
  | assertion (a : Assertion)
  | property (negated : Bool) (query : PropertyQuery)
  | perl (negated : Bool) (c : PerlClass)
  | bracketed (negated : Bool) (inner : SetExpr)
  | repetition (min : Nat) (max : Option Nat) (sub : Pattern)
  | group (captures : Bool) (change : FlagChange) (sub : Pattern)
  | alternation (branches : List Pattern)
  | concat (parts : List Pattern)
deriving Repr

/-! ### Smart constructors -/

/-- The items of a class as one expression. -/
def SetExpr.ofItems : List SetExpr → SetExpr
  | [] => .empty
  | [item] => item
  | items => .union items

/-- The parts of a sequence as one pattern. -/
def Pattern.ofParts : List Pattern → Pattern
  | [] => .empty
  | [part] => part
  | parts => .concat parts

/-- The branches of an alternation as one pattern. -/
def Pattern.ofBranches : List Pattern → Pattern
  | [branch] => branch
  | branches => .alternation branches

/-! ### Depth -/

mutual

/-- How deep the parts of a class are nested. -/
def SetExpr.depth : SetExpr → Nat
  | .bracketed _ inner => inner.depth + 1
  | .union items => SetExpr.depths items + 1
  | .binary _ lhs rhs => max lhs.depth rhs.depth + 1
  | _ => 0

/-- How deep the parts of the deepest item are nested. -/
def SetExpr.depths : List SetExpr → Nat
  | [] => 0
  | e :: es => max e.depth (SetExpr.depths es)

end

mutual

/-- How deep the parts of a pattern are nested. -/
def Pattern.depth : Pattern → Nat
  | .bracketed _ inner => inner.depth + 1
  | .repetition _ _ sub => sub.depth + 1
  | .group _ _ sub => sub.depth + 1
  | .alternation branches => Pattern.depths branches + 1
  | .concat parts => Pattern.depths parts + 1
  | _ => 0

/-- How deep the parts of the deepest pattern are nested. -/
def Pattern.depths : List Pattern → Nat
  | [] => 0
  | p :: ps => max p.depth (Pattern.depths ps)

end

/-- How deep the parts of a pattern may be nested. -/
def depthLimit : Nat :=
  250

end Regex

end EntityScript
