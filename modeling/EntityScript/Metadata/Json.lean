import EntityScript.Json.Decode
import EntityScript.Metadata.Record

/-!
# Metadata records as JSON

Records are written with all their fields, under the names of the provider. A dump of the provider
is a list of entities, a list inside an object under the name `value`, or one entity. The shapes
are tried in this order on the whole value.
-/

namespace EntityScript

namespace Metadata

open Json (Decoder Value Draft Fault)
open Json.Decoder (RecordField)

/-! ### Labels -/

/-- The fields of a localized label. -/
def LocalizedLabel.fields : List (RecordField LocalizedLabel) := [
  .of ["Label"] Decoder.string fun x r => { r with text := x },
  .of ["LanguageCode"] Decoder.int32 fun x r => { r with languageCode := x }]

/-- Reads a localized label. -/
def LocalizedLabel.decode : Decoder LocalizedLabel :=
  Decoder.record fields {}

/-- A localized label as JSON. -/
def LocalizedLabel.encode (l : LocalizedLabel) : Value :=
  .object [("Label", .string l.text), ("LanguageCode", .int l.languageCode.toInt)]

/-- The fields of a label. -/
def Label.fields : List (RecordField Label) := [
  .of ["LocalizedLabels"] (Decoder.list LocalizedLabel.decode)
    fun x r => { r with localizedLabels := x },
  .of ["UserLocalizedLabel"] (Decoder.option LocalizedLabel.decode)
    fun x r => { r with userLocalizedLabel := x }]

/-- Reads a label. -/
def Label.decode : Decoder Label :=
  Decoder.record fields {}

/-- A label as JSON. -/
def Label.encode (l : Label) : Value :=
  .object [
    ("LocalizedLabels", .list LocalizedLabel.encode l.localizedLabels),
    ("UserLocalizedLabel", .option LocalizedLabel.encode l.userLocalizedLabel)]

/-! ### Types, levels and managed properties -/

/-- Reads a type; a name that is not known gives the unknown type. -/
def TypeCode.decode : Decoder TypeCode :=
  Decoder.oneOf fun s => some (ofName s)

/-- A type as JSON. -/
def TypeCode.encode (t : TypeCode) : Value :=
  .string t.name

/-- Reads a requirement level. -/
def RequiredLevel.decode : Decoder RequiredLevel :=
  Decoder.oneOf ofName?

/-- A requirement level as JSON. -/
def RequiredLevel.encode (l : RequiredLevel) : Value :=
  .string l.name

/-- The fields of a managed property. -/
def Managed.fields {α : Type} (read : Decoder α) : List (RecordField (Managed α)) := [
  .of ["Value"] read fun x r => { r with value := x },
  .of ["CanBeChanged"] Decoder.bool fun x r => { r with canBeChanged := x },
  .of ["ManagedPropertyLogicalName"] (Decoder.option Decoder.string)
    fun x r => { r with managedPropertyLogicalName := x }]

/-- Reads a managed property, whose value is `value` if it is missing. -/
def Managed.decode {α : Type} (read : Decoder α) (value : α) : Decoder (Managed α) :=
  Decoder.record (fields read) { value }

/-- A managed property as JSON. -/
def Managed.encode {α : Type} (write : α → Value) (m : Managed α) : Value :=
  .object [
    ("Value", write m.value),
    ("CanBeChanged", .bool m.canBeChanged),
    ("ManagedPropertyLogicalName", .option .string m.managedPropertyLogicalName)]

/-- Reads a type name inside its wrapper. -/
def decodeTypeName : Decoder String :=
  Decoder.record [.of ["Value"] Decoder.string fun x _ => x] ""

/-- A type name inside its wrapper, as JSON. -/
def encodeTypeName (name : String) : Value :=
  .object [("Value", .string name)]

/-! ### Attributes -/

/-- Reads an optional text. -/
private def optionalText : Decoder (Option String) :=
  Decoder.option Decoder.string

/-- Reads an optional truth value. -/
private def optionalBool : Decoder (Option Bool) :=
  Decoder.option Decoder.bool

/-- Reads an optional integer. -/
private def optionalInt : Decoder (Option Int32) :=
  Decoder.option Decoder.int32

/-- Reads an optional managed truth value. -/
private def optionalManagedBool : Decoder (Option (Managed Bool)) :=
  Decoder.option (Managed.decode Decoder.bool false)

/-- The fields of an attribute. -/
def Attribute.fields : List (RecordField Attribute) := [
  .of ["MetadataId"] optionalText fun x r => { r with metadataId := x },
  .of ["LogicalName"] Decoder.string fun x r => { r with logicalName := x },
  .of ["SchemaName"] Decoder.string fun x r => { r with schemaName := x },
  .of ["EntityLogicalName"] optionalText fun x r => { r with entityLogicalName := x },
  .of ["AttributeType"] (Decoder.option TypeCode.decode) fun x r => { r with attributeType := x },
  .of ["AttributeTypeName"] (Decoder.option decodeTypeName)
    fun x r => { r with attributeTypeName := x },
  .of ["AttributeOf"] optionalText fun x r => { r with attributeOf := x },
  .of ["ColumnNumber"] optionalInt fun x r => { r with columnNumber := x },
  .of ["IsPrimaryId"] optionalBool fun x r => { r with isPrimaryId := x },
  .of ["IsPrimaryName"] optionalBool fun x r => { r with isPrimaryName := x },
  .of ["IsCustomAttribute"] optionalBool fun x r => { r with isCustomAttribute := x },
  .of ["IsValidForCreate"] optionalBool fun x r => { r with isValidForCreate := x },
  .of ["IsValidForRead"] optionalBool fun x r => { r with isValidForRead := x },
  .of ["IsValidForUpdate"] optionalBool fun x r => { r with isValidForUpdate := x },
  .of ["IsLogical"] optionalBool fun x r => { r with isLogical := x },
  .of ["IsCustomizable"] optionalManagedBool fun x r => { r with isCustomizable := x },
  .of ["RequiredLevel"] (Decoder.option (Managed.decode RequiredLevel.decode .none))
    fun x r => { r with requiredLevel := x },
  .of ["DisplayName"] Label.decode fun x r => { r with displayName := x },
  .of ["Description"] Label.decode fun x r => { r with description := x }]

/-- Reads an attribute. -/
def Attribute.decode : Decoder Attribute :=
  Decoder.record fields {}

/-- An optional integer as JSON. -/
private def encodeInt (i : Option Int32) : Value :=
  .option (fun i => .int i.toInt) i

/-- An attribute as JSON. -/
def Attribute.encode (a : Attribute) : Value :=
  .object [
    ("MetadataId", .option .string a.metadataId),
    ("LogicalName", .string a.logicalName),
    ("SchemaName", .string a.schemaName),
    ("EntityLogicalName", .option .string a.entityLogicalName),
    ("AttributeType", .option TypeCode.encode a.attributeType),
    ("AttributeTypeName", .option encodeTypeName a.attributeTypeName),
    ("AttributeOf", .option .string a.attributeOf),
    ("ColumnNumber", encodeInt a.columnNumber),
    ("IsPrimaryId", .option .bool a.isPrimaryId),
    ("IsPrimaryName", .option .bool a.isPrimaryName),
    ("IsCustomAttribute", .option .bool a.isCustomAttribute),
    ("IsValidForCreate", .option .bool a.isValidForCreate),
    ("IsValidForRead", .option .bool a.isValidForRead),
    ("IsValidForUpdate", .option .bool a.isValidForUpdate),
    ("IsLogical", .option .bool a.isLogical),
    ("IsCustomizable", .option (Managed.encode .bool) a.isCustomizable),
    ("RequiredLevel", .option (Managed.encode RequiredLevel.encode) a.requiredLevel),
    ("DisplayName", a.displayName.encode),
    ("Description", a.description.encode)]

/-! ### Entities -/

/-- The fields of an entity. -/
def Entity.fields : List (RecordField Entity) := [
  .of ["MetadataId"] optionalText fun x r => { r with metadataId := x },
  .of ["LogicalName"] Decoder.string fun x r => { r with logicalName := x },
  .of ["SchemaName"] Decoder.string fun x r => { r with schemaName := x },
  .of ["EntitySetName"] optionalText fun x r => { r with entitySetName := x },
  .of ["LogicalCollectionName"] optionalText fun x r => { r with logicalCollectionName := x },
  .of ["ObjectTypeCode"] optionalInt fun x r => { r with objectTypeCode := x },
  .of ["PrimaryIdAttribute"] optionalText fun x r => { r with primaryIdAttribute := x },
  .of ["PrimaryNameAttribute"] optionalText fun x r => { r with primaryNameAttribute := x },
  .of ["IsCustomEntity"] optionalBool fun x r => { r with isCustomEntity := x },
  .of ["IsActivity"] optionalBool fun x r => { r with isActivity := x },
  .of ["IsIntersect"] optionalBool fun x r => { r with isIntersect := x },
  .of ["IsCustomizable"] optionalManagedBool fun x r => { r with isCustomizable := x },
  .of ["DisplayName"] Label.decode fun x r => { r with displayName := x },
  .of ["DisplayCollectionName"] Label.decode fun x r => { r with displayCollectionName := x },
  .of ["Description"] Label.decode fun x r => { r with description := x },
  .of ["Attributes"] (Decoder.list Attribute.decode) fun x r => { r with attributes := x }]

/-- Reads an entity. -/
def Entity.decode : Decoder Entity :=
  Decoder.record fields {}

/-- An entity as JSON. -/
def Entity.encode (e : Entity) : Value :=
  .object [
    ("MetadataId", .option .string e.metadataId),
    ("LogicalName", .string e.logicalName),
    ("SchemaName", .string e.schemaName),
    ("EntitySetName", .option .string e.entitySetName),
    ("LogicalCollectionName", .option .string e.logicalCollectionName),
    ("ObjectTypeCode", encodeInt e.objectTypeCode),
    ("PrimaryIdAttribute", .option .string e.primaryIdAttribute),
    ("PrimaryNameAttribute", .option .string e.primaryNameAttribute),
    ("IsCustomEntity", .option .bool e.isCustomEntity),
    ("IsActivity", .option .bool e.isActivity),
    ("IsIntersect", .option .bool e.isIntersect),
    ("IsCustomizable", .option (Managed.encode .bool) e.isCustomizable),
    ("DisplayName", e.displayName.encode),
    ("DisplayCollectionName", e.displayCollectionName.encode),
    ("Description", e.description.encode),
    ("Attributes", .list Attribute.encode e.attributes)]

/-! ### Dumps -/

/-- The list of entities inside an object, under the name `value`. -/
def decodeEnvelope : Decoder (List Entity)
  | .object ms ending =>
    (Decoder.record [.require (.of ["value"] (Decoder.list Entity.decode) fun x _ => x)] [])
      (.object ms ending)
  | d => .error d.wrongShape

/-- Reads the entities of a dump. The value is read whole before its shape is looked at, and a value
of none of the shapes is a mismatch whatever is wrong with it. -/
def decodeDump : Decoder (List Entity) := fun d => do
  let d := (← d.value Json.depthLimit).draft
  match Decoder.list Entity.decode d with
  | .ok entities => .ok entities
  | .error _ =>
    match decodeEnvelope d with
    | .ok entities => .ok entities
    | .error _ =>
      match Entity.decode d with
      | .ok entity => .ok [entity]
      | .error _ => .error .mismatch

/-- The entities of the text of a dump. -/
def loadDump (s : String) : Except Fault (List Entity) :=
  Decoder.text decodeDump s

end Metadata

end EntityScript
