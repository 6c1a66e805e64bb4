import EntityScript.Markup.Event
import EntityScript.Proofs.Markup.Spelling

/-!
# Written documents

A document as it is written: elements with their tags and what stands between these. An `Item` has
all that its writer is free to choose: the spelling of texts, the attributes, the white space in
tags, and whether an element without content has one tag or two. `Item.write` is its text, and
`Item.WellFormed` says which choices are allowed: all those of XML, and some more for names, for
values of attributes and for the ends of comments.
-/

namespace EntityScript

namespace Markup

/-! ### Tags -/

/-- The text is white space of markup, or empty. -/
def IsGap (s : List Char) : Prop :=
  ∀ c ∈ s, isSpace c = true

/-- The text can be the name of an element or attribute; every name of XML can. -/
def IsName (s : List Char) : Prop :=
  s ≠ [] ∧ ∀ c ∈ s, isSpace c = false ∧ c ∉ "<>/=&!?'\"".toList

-- The characters of the text are tried, not all characters there are.
instance (s : List Char) : Decidable (IsGap s) :=
  List.decidableBAll (isSpace · = true) s

instance (s : List Char) : Decidable (IsName s) :=
  @instDecidableAnd _ _ _ (List.decidableBAll
    (fun c => isSpace c = false ∧ c ∉ "<>/=&!?'\"".toList) s)

/-- An attribute with the white space before its name and around its equality sign. -/
structure Attribute where
  gap : List Char
  name : List Char
  before : List Char
  after : List Char
  quote : Char
  value : List Char

namespace Attribute

/-- The text of an attribute. -/
def write (a : Attribute) : List Char :=
  a.gap ++ a.name ++ a.before ++ ('=' :: a.after) ++ (a.quote :: a.value ++ [a.quote])

/-- The attribute stands apart from what is before it, and its value is quoted. -/
structure WellFormed (a : Attribute) : Prop where
  gap_ne_nil : a.gap ≠ []
  gap : IsGap a.gap
  name : IsName a.name
  before : IsGap a.before
  after : IsGap a.after
  quote : a.quote = '\'' ∨ a.quote = '"'
  value : a.quote ∉ a.value

end Attribute

/-- The tag of an element, with the white space before its end. -/
structure Tag where
  name : String
  attributes : List Attribute := []
  gap : List Char := []

namespace Tag

/-- What follows the name of a tag. -/
def writeAfterName (t : Tag) : List Char :=
  t.attributes.flatMap Attribute.write ++ t.gap

/-- The text of a tag without its brackets. -/
def write (t : Tag) : List Char :=
  t.name.toList ++ t.writeAfterName

/-- Every part of the tag is well formed. -/
structure WellFormed (t : Tag) : Prop where
  name : IsName t.name.toList
  attributes : ∀ a ∈ t.attributes, a.WellFormed
  gap : IsGap t.gap

end Tag

/-! ### Items -/

/-- A part of a document. -/
inductive Item where
  /-- A text and one of its spellings. -/
  | text (raw s : String)
  /-- A section of character data. -/
  | data (s : String)
  | comment (s : List Char)
  | instruction (s : List Char)
  /-- An element with two tags; the second one may have white space at its end. -/
  | element (tag : Tag) (children : List Item) (gap : List Char)
  /-- An element that is one tag. -/
  | emptyElement (tag : Tag)

/-- A text between two marks. -/
def enclose (start : String) (s : List Char) (stop : String) : List Char :=
  start.toList ++ (s ++ stop.toList)

namespace Item

mutual

/-- The text of an item. -/
def write : Item → List Char
  | text raw _ => raw.toList
  | data s => enclose "<![CDATA[" s.toList "]]>"
  | comment s => enclose "<!--" s "-->"
  | instruction s => enclose "<?" s "?>"
  | element tag children gap =>
    enclose "<" tag.write ">" ++ (writeAll children ++ enclose "</" (tag.name.toList ++ gap) ">")
  | emptyElement tag => enclose "<" tag.write "/>"

/-- The text of some items, one after the other. -/
def writeAll : List Item → List Char
  | [] => []
  | i :: is => i.write ++ writeAll is

end

/-- The item is a text. -/
def isText : Item → Bool
  | text _ _ => true
  | _ => false

/-- The first of the items, if there are any, is a text. -/
def startsWithText (is : List Item) : Bool :=
  is.head?.any isText

mutual

/-- The item is as its reader expects it: the end of a section, comment or instruction is not
inside it, and names and attributes are well formed. -/
def WellFormed : Item → Prop
  | text raw s => raw ≠ "" ∧ Spells raw.toList s.toList
  | data s => ¬ "]]>".toList <:+: s.toList
  | comment s => ¬ "--".toList <:+: s
  | instruction s => ¬ "?>".toList <:+: '?' :: s
  | element tag children gap => tag.WellFormed ∧ AllWellFormed children ∧ IsGap gap
  | emptyElement tag => tag.WellFormed

/-- All items are well formed, and no two texts stand side by side. -/
def AllWellFormed : List Item → Prop
  | [] => True
  | i :: is => i.WellFormed ∧ (i.isText && startsWithText is) = false ∧ AllWellFormed is

end

end Item

end Markup

end EntityScript
