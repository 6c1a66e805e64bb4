import EntityScript.Metadata.Record
import EntityScript.Text.Case

/-!
# Properties

What a template can ask of a record: a table of named properties, each with a value that renders
as text in a given language. `resolve` finds a property whatever the case of ASCII letters in its
name; `properties` lists them all in the order of the table.
-/

namespace EntityScript

namespace Metadata

/-! ### Property values -/

/-- The value of a property. -/
inductive PropertyValue where
  | text (s : String)
  | integer (i : Int)
  | bool (b : Bool)
  /-- A value given by its name. -/
  | named (name : String)
  /-- A value inside a managed property. -/
  | wrapped (inner : PropertyValue)
  | label (label : Label)
  /-- The property is not set. -/
  | absent
deriving DecidableEq, Repr

namespace PropertyValue

/-- The property is not set. -/
def isAbsent : PropertyValue → Bool
  | absent => true
  | _ => false

/-- The value as text; a label gives its text in the language, or nothing. -/
def render (languageCode : Int32) : PropertyValue → String
  | text s => s
  | integer i => toString i
  | bool true => "True"
  | bool false => "False"
  | named name => name
  | wrapped inner => inner.render languageCode
  | label l => (l.localized languageCode).getD ""
  | absent => ""

/-- An optional value. -/
def ofOption {α : Type} (wrap : α → PropertyValue) : Option α → PropertyValue
  | some a => wrap a
  | none => absent

/-- An optional text. -/
def ofText : Option String → PropertyValue :=
  ofOption text

/-- An optional truth value. -/
def ofBool : Option Bool → PropertyValue :=
  ofOption bool

/-- An optional integer. -/
def ofInt32 : Option Int32 → PropertyValue :=
  ofOption fun i => integer i.toInt

/-- An optional type. -/
def ofTypeCode : Option TypeCode → PropertyValue :=
  ofOption fun t => named t.name

/-- An optional value inside a managed property. -/
def ofManaged {α : Type} (inner : α → PropertyValue) : Option (Managed α) → PropertyValue :=
  ofOption fun m => wrapped (inner m.value)

end PropertyValue

/-! ### Tables -/

/-- A named property of records of type `ρ`. -/
structure Property (ρ : Type) where
  name : String
  value : ρ → PropertyValue

/-- The properties of an entity. -/
def entityProperties : List (Property Entity) := [
  ⟨"metadataid", fun e => .ofText e.metadataId⟩,
  ⟨"logicalname", fun e => .text e.logicalName⟩,
  ⟨"schemaname", fun e => .text e.schemaName⟩,
  ⟨"entitysetname", fun e => .ofText e.entitySetName⟩,
  ⟨"logicalcollectionname", fun e => .ofText e.logicalCollectionName⟩,
  ⟨"objecttypecode", fun e => .ofInt32 e.objectTypeCode⟩,
  ⟨"primaryidattribute", fun e => .ofText e.primaryIdAttribute⟩,
  ⟨"primarynameattribute", fun e => .ofText e.primaryNameAttribute⟩,
  ⟨"iscustomentity", fun e => .ofBool e.isCustomEntity⟩,
  ⟨"isactivity", fun e => .ofBool e.isActivity⟩,
  ⟨"isintersect", fun e => .ofBool e.isIntersect⟩,
  ⟨"iscustomizable", fun e => .ofManaged .bool e.isCustomizable⟩,
  ⟨"displayname", fun e => .label e.displayName⟩,
  ⟨"displaycollectionname", fun e => .label e.displayCollectionName⟩,
  ⟨"description", fun e => .label e.description⟩]

/-- The properties of an attribute. -/
def attributeProperties : List (Property Attribute) := [
  ⟨"metadataid", fun a => .ofText a.metadataId⟩,
  ⟨"logicalname", fun a => .text a.logicalName⟩,
  ⟨"schemaname", fun a => .text a.schemaName⟩,
  ⟨"entitylogicalname", fun a => .ofText a.entityLogicalName⟩,
  ⟨"attributetype", fun a => .ofTypeCode a.attributeType⟩,
  ⟨"attributetypename", fun a => .ofOption (fun n => .wrapped (.text n)) a.attributeTypeName⟩,
  ⟨"attributeof", fun a => .ofText a.attributeOf⟩,
  ⟨"columnnumber", fun a => .ofInt32 a.columnNumber⟩,
  ⟨"isprimaryid", fun a => .ofBool a.isPrimaryId⟩,
  ⟨"isprimaryname", fun a => .ofBool a.isPrimaryName⟩,
  ⟨"iscustomattribute", fun a => .ofBool a.isCustomAttribute⟩,
  ⟨"isvalidforcreate", fun a => .ofBool a.isValidForCreate⟩,
  ⟨"isvalidforread", fun a => .ofBool a.isValidForRead⟩,
  ⟨"isvalidforupdate", fun a => .ofBool a.isValidForUpdate⟩,
  ⟨"islogical", fun a => .ofBool a.isLogical⟩,
  ⟨"iscustomizable", fun a => .ofManaged .bool a.isCustomizable⟩,
  ⟨"requiredlevel", fun a => .ofManaged (fun l => .named l.name) a.requiredLevel⟩,
  ⟨"displayname", fun a => .label a.displayName⟩,
  ⟨"description", fun a => .label a.description⟩]

/-- A type of records that has a table of properties. -/
class HasProperties (ρ : Type) where
  table : List (Property ρ)

instance : HasProperties Entity :=
  ⟨entityProperties⟩

instance : HasProperties Attribute :=
  ⟨attributeProperties⟩

/-! ### Resolution -/

section

variable {ρ : Type} [HasProperties ρ]

/-- The text of one property in a language; none if the record has no such property. -/
def resolve (record : ρ) (property : String) (languageCode : Int32) : Option String :=
  ((HasProperties.table (ρ := ρ)).find? (Text.eqIgnoringAsciiCase ·.name property)).map
    fun p => (p.value record).render languageCode

/-- The names and texts of all properties in a language, in the order of the table. -/
def properties (record : ρ) (languageCode : Int32) : List (String × String) :=
  (HasProperties.table (ρ := ρ)).map fun p => (p.name, (p.value record).render languageCode)

end

/-- A record together with the texts of its properties in one language. -/
structure Scope (ρ : Type) where
  record : ρ
  values : List (String × String)

namespace Scope

variable {ρ : Type}

/-- The scope of a record. -/
def of [HasProperties ρ] (record : ρ) (languageCode : Int32) : Scope ρ :=
  ⟨record, properties record languageCode⟩

/-- The text of the property of exactly this name. -/
def get? (scope : Scope ρ) (property : String) : Option String :=
  (scope.values.find? (·.1 == property)).map (·.2)

end Scope

end Metadata

end EntityScript
