import EntityScript.Metadata.Record
import EntityScript.Text.Case
import EntityScript.Text.Occurrence

/-!
# Names and types in scripts

How an attribute appears in generated code: its type in the script language, and the name of the
field that the web interface uses for it.
-/

namespace EntityScript

namespace Metadata

/-- A type of the script language. -/
inductive ScriptType where
  | number
  | string
deriving DecidableEq, Repr

namespace ScriptType

/-- The keyword of a script type. -/
def name : ScriptType → String
  | number => "number"
  | string => "string"

/-- The script type of attributes of a type. -/
def ofTypeCode (t : Option TypeCode) : ScriptType :=
  if t.any TypeCode.isNumericLike then number else string

end ScriptType

namespace Attribute

/-- The type of the attribute in a script. -/
def scriptType (a : Attribute) : ScriptType :=
  .ofTypeCode a.attributeType

/-- The web interface gives the key of the record that the attribute refers to, in place of its
value. A primary key refers to nothing, and activities have names of their own. -/
def isLookupField (a : Attribute) : Bool :=
  a.attributeType.any TypeCode.isLookupLike && !a.isPrimaryKey &&
    !Text.contains "activity".toList (Text.lower a.schemaName.toList)

/-- The name of the attribute's field in the web interface. -/
def webApiName (a : Attribute) : String :=
  let name := Text.lowercase a.schemaName
  if a.isLookupField then "_" ++ name ++ "_value" else name

end Attribute

end Metadata

end EntityScript
