import EntityScript.Metadata.Label

/-!
# Metadata records

An entity of the customer database, with its attributes in the order of the provider. Whatever the
provider may leave out is optional or has a default.
-/

namespace EntityScript

namespace Metadata

/-! ### Type codes and requirement levels -/

/-- The type of an attribute, as the provider names it. -/
inductive TypeCode where
  | boolean
  | customer
  | dateTime
  | decimal
  | double
  | integer
  | lookup
  | memo
  | money
  | owner
  | partyList
  | picklist
  | state
  | status
  | string
  | uniqueidentifier
  | calendarRules
  | virtual
  | bigInt
  | managedProperty
  | entityName
  /-- Every name that is not one of the others. -/
  | unknown
deriving DecidableEq, Repr, Inhabited

namespace TypeCode

/-- The name of a type. -/
def name : TypeCode → String
  | boolean => "Boolean"
  | customer => "Customer"
  | dateTime => "DateTime"
  | decimal => "Decimal"
  | double => "Double"
  | integer => "Integer"
  | lookup => "Lookup"
  | memo => "Memo"
  | money => "Money"
  | owner => "Owner"
  | partyList => "PartyList"
  | picklist => "Picklist"
  | state => "State"
  | status => "Status"
  | string => "String"
  | uniqueidentifier => "Uniqueidentifier"
  | calendarRules => "CalendarRules"
  | virtual => "Virtual"
  | bigInt => "BigInt"
  | managedProperty => "ManagedProperty"
  | entityName => "EntityName"
  | unknown => "Unknown"

/-- The types that have a name of their own. -/
def known : List TypeCode :=
  [boolean, customer, dateTime, decimal, double, integer, lookup, memo, money, owner, partyList,
    picklist, state, status, string, uniqueidentifier, calendarRules, virtual, bigInt,
    managedProperty, entityName]

/-- The type that a name stands for. -/
def ofName (s : String) : TypeCode :=
  (known.find? (·.name == s)).getD unknown

/-- Every type is read back from its name. A type without a name of its own is written as it was
read. -/
theorem ofName_name (t : TypeCode) : ofName t.name = t := by
  cases t <;> decide

/-- The attribute refers to records of other entities. -/
def isLookupLike : TypeCode → Bool
  | lookup | owner | partyList => true
  | _ => false

/-- The attribute is a number to a script. -/
def isNumericLike : TypeCode → Bool
  | virtual | state | integer | bigInt | money | decimal | double => true
  | _ => false

end TypeCode

/-- Whether an attribute has to be filled in. -/
inductive RequiredLevel where
  | none
  | systemRequired
  | applicationRequired
  | recommended
deriving DecidableEq, Repr, Inhabited

namespace RequiredLevel

/-- The name of a requirement level. -/
def name : RequiredLevel → String
  | none => "None"
  | systemRequired => "SystemRequired"
  | applicationRequired => "ApplicationRequired"
  | recommended => "Recommended"

/-- All requirement levels. -/
def all : List RequiredLevel :=
  [none, systemRequired, applicationRequired, recommended]

/-- The requirement level of a name. -/
def ofName? (s : String) : Option RequiredLevel :=
  all.find? (·.name == s)

/-- Every requirement level is read back from its name. -/
theorem ofName?_name (l : RequiredLevel) : ofName? l.name = some l := by
  cases l <;> decide

end RequiredLevel

/-- A value together with whether a managed solution lets it be changed. -/
structure Managed (α : Type) where
  value : α
  canBeChanged : Bool := false
  managedPropertyLogicalName : Option String := none
deriving DecidableEq, Repr, Inhabited

/-! ### Records -/

/-- An attribute of an entity. -/
structure Attribute where
  metadataId : Option String := none
  logicalName : String := ""
  schemaName : String := ""
  entityLogicalName : Option String := none
  attributeType : Option TypeCode := none
  attributeTypeName : Option String := none
  attributeOf : Option String := none
  columnNumber : Option Int32 := none
  isPrimaryId : Option Bool := none
  isPrimaryName : Option Bool := none
  isCustomAttribute : Option Bool := none
  isValidForCreate : Option Bool := none
  isValidForRead : Option Bool := none
  isValidForUpdate : Option Bool := none
  isLogical : Option Bool := none
  isCustomizable : Option (Managed Bool) := none
  requiredLevel : Option (Managed RequiredLevel) := none
  displayName : Label := {}
  description : Label := {}
deriving DecidableEq, Repr, Inhabited

namespace Attribute

/-- The attribute has no column of its own. -/
def isVirtual (a : Attribute) : Bool :=
  a.attributeType == some .virtual

/-- The attribute is the key of its entity. -/
def isPrimaryKey (a : Attribute) : Bool :=
  a.isPrimaryId.getD false

end Attribute

/-- An entity with its attributes. -/
structure Entity where
  metadataId : Option String := none
  logicalName : String := ""
  schemaName : String := ""
  entitySetName : Option String := none
  logicalCollectionName : Option String := none
  objectTypeCode : Option Int32 := none
  primaryIdAttribute : Option String := none
  primaryNameAttribute : Option String := none
  isCustomEntity : Option Bool := none
  isActivity : Option Bool := none
  isIntersect : Option Bool := none
  isCustomizable : Option (Managed Bool) := none
  displayName : Label := {}
  displayCollectionName : Label := {}
  description : Label := {}
  attributes : List Attribute := []
deriving DecidableEq, Repr, Inhabited

namespace Entity

/-- The provider says that the entity was added by a customer. -/
def isCustom (e : Entity) : Bool :=
  e.isCustomEntity.getD false

end Entity

end Metadata

end EntityScript
