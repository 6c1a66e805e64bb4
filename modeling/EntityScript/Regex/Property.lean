import EntityScript.Regex.Pattern
import EntityScript.Unicode.Age
import EntityScript.Unicode.Binary
import EntityScript.Unicode.Category
import EntityScript.Unicode.Script
import EntityScript.Unicode.Segmentation

/-!
# Properties in patterns

Which characters a property in a pattern stands for. Names are compared in a normal form: without
regard to case, blanks, hyphens and underscores, and without `is` before them.
-/

namespace EntityScript

namespace Regex

open Unicode (CharSet)

/-- The normal form of the name of a property or value. -/
def normalName (s : String) : String :=
  let lowered := s.toList.map Char.toLower
  let hasIs := ['i', 's'].isPrefixOf lowered
  let kept := (if hasIs then lowered.drop 2 else lowered).filter fun c =>
    c != ' ' && c != '_' && c != '-' && c.toNat < 0x80
  -- `isc` is a name of its own and no `is` before `c`.
  if hasIs && kept == ['c'] then "isc" else String.ofList kept

/-- The characters of a name alone: a binary property, a category or a script. -/
def setOfName? (name : String) : Option CharSet :=
  let n := normalName name
  let binary := if n = "cf" || n = "sc" || n = "lc" then none else Unicode.binaryByName? n
  binary.or ((Unicode.categoryByName? n).or (Unicode.scriptByName? n))

/-- The characters with a value of a property. -/
def setOfValue? (name value : String) : Option CharSet :=
  let n := normalName name
  let v := normalName value
  if n = "gc" || n = "generalcategory" then Unicode.categoryByName? v
  else if n = "sc" || n = "script" then Unicode.scriptByName? v
  else if n = "scx" || n = "scriptextensions" then Unicode.scriptExtensionByName? v
  else if n = "age" then Unicode.ageByName? v
  else if n = "gcb" || n = "graphemeclusterbreak" then
    Unicode.breakByName? Unicode.graphemeBreaks v
  else if n = "wb" || n = "wordbreak" then Unicode.breakByName? Unicode.wordBreaks v
  else if n = "sb" || n = "sentencebreak" then Unicode.breakByName? Unicode.sentenceBreaks v
  else none

/-- The characters that a property in a pattern stands for. -/
def PropertyQuery.set? : PropertyQuery → Option CharSet
  | .named name => setOfName? name
  | .valued name value => setOfValue? name value

end Regex

end EntityScript
