import EntityScript.Regex.Meaning
import EntityScript.Regex.Reader
import EntityScript.Regex.Size

/-!
# Regular expressions

A regular expression is compiled from a pattern, if that is well formed and the machine for it not
too large, and then matched anywhere in a text.
-/

namespace EntityScript

/-- A compiled regular expression. -/
structure Regex where
  expr : Regex.Expr

namespace Regex

/-- Compiles a pattern that is matched without regard to case unless it says otherwise. -/
def compile? (s : List Char) : Option Regex := do
  let pattern ← Pattern.read? s
  let (e, _) ← pattern.expr? { caseInsensitive := true }
  if e.fits then some ⟨e⟩ else none

/-- The expression matches some part of the text. -/
def isMatch (r : Regex) (text : List Char) : Bool :=
  r.expr.isMatch text

end Regex

end EntityScript
