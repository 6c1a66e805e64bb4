import EntityScript.Yaml.Scalar.Written

/-!
# YAML values

What is written as a YAML document, in block style: a member of a mapping or an item of a sequence
on a line of its own, what belongs to it indented by two columns. Sequences in mappings are not
indented.
-/

namespace EntityScript

namespace Yaml

/-- A value to be written. -/
inductive Value where
  /-- A word that stands for itself: a number or a truth value. -/
  | word (s : String)
  | text (s : String)
  | sequence (items : List Value)
  | mapping (members : List (String × Value))

namespace Value

/-- A truth value. -/
def bool (b : Bool) : Value :=
  .word (if b then "true" else "false")

/-- An integer. -/
def int (i : Int) : Value :=
  .word (toString i)

/-- The line ends here, unless it has ended already. -/
def endLine (s : List Char) : List Char :=
  if s.getLast?.any isBreak then s else s ++ ['\n']

mutual

/-- What stands after the key or dash at the column, to the end of the line or lines. -/
def writeAfter (column : Nat) : Value → List Char
  | .word s => ' ' :: s.toList ++ ['\n']
  | .text s => endLine (' ' :: writeScalar (column + 2) s.toList)
  | .sequence [] => " []\n".toList
  | .sequence items => '\n' :: writeItems column items
  | .mapping [] => " \x7b\x7d\n".toList
  | .mapping members => '\n' :: writeMembers (column + 2) members

/-- The item after its dash at the column; the first member of a mapping stands right there. -/
def writeItem (column : Nat) : Value → List Char
  | .mapping ((key, v) :: members) =>
    ' ' :: writeScalar (column + 4) key.toList ++ ':' :: writeAfter (column + 2) v ++
      writeMembers (column + 2) members
  | v => writeAfter column v

/-- The items of a sequence whose dashes are at the column. -/
def writeItems (column : Nat) : List Value → List Char
  | [] => []
  | v :: vs => spaces column ++ '-' :: writeItem column v ++ writeItems column vs

/-- The members of a mapping whose keys are at the column. -/
def writeMembers (column : Nat) : List (String × Value) → List Char
  | [] => []
  | (key, v) :: members =>
    spaces column ++ writeScalar (column + 2) key.toList ++ ':' :: writeAfter column v ++
      writeMembers column members

end

/-- The document of a mapping of these members. -/
def document (members : List (String × Value)) : String :=
  String.ofList (writeMembers 0 members)

end Value

end Yaml

end EntityScript
