import EntityScript.Proofs.Markup.Writing
import EntityScript.Template.Node
import EntityScript.Text.Blank

/-!
# Printed templates

A list of nodes is printed as a document in many ways. `Prints` says in which: every node becomes
one item, and anywhere between these may be padding, which is blank text, comments and processing
instructions. What a printing is free to choose (attributes, the spelling of texts, the content of
an element that is ignored) is in the items. A `Printing` is a whole document, with the nodes inside
one `template` element.

Nodes are printable (`Node.IsPrintable`) when their texts can be character data and their names are
names of elements. Printable nodes have a printing (**`Printing.plain`**).
-/

namespace EntityScript

open Markup (Item)

/-! ### Kinds of items -/

namespace Markup.Item

/-- The item is blank text, a comment or an instruction. -/
def isPadding : Item → Bool
  | text _ s => Text.allBlank s.toList
  | comment _ | instruction _ => true
  | data _ | element _ _ _ | emptyElement _ => false

/-- The name and the content of an element, written with two tags or with one. -/
def element? : Item → Option (String × List Item)
  | element tag children _ => some (tag.name, children)
  | emptyElement tag => some (tag.name, [])
  | text _ _ | data _ | comment _ | instruction _ => none

/-- The item is padding or an element, and so gives no text. -/
def isTextless (i : Item) : Bool :=
  i.isPadding || i.element?.isSome

end Markup.Item

namespace Template

/-! ### Printings -/

/-- The content of an attribute list: at most one text, as character data or, if it is not blank, as
text. -/
inductive PrintsFragment : Option String → List Item → Prop
  | none {items : List Item} (h : ∀ i ∈ items, i.isTextless = true) : PrintsFragment none items
  | data {s : String} {before after : List Item} (hbefore : ∀ i ∈ before, i.isTextless = true)
      (hafter : ∀ i ∈ after, i.isTextless = true) :
      PrintsFragment (some s) (before ++ .data s :: after)
  | text {raw s : String} {before after : List Item} (hs : Text.allBlank s.toList = false)
      (hbefore : ∀ i ∈ before, i.isTextless = true)
      (hafter : ∀ i ∈ after, i.isTextless = true) :
      PrintsFragment (some s) (before ++ .text raw s :: after)

/-- The items are a way to print the nodes. -/
inductive Prints : List Node → List Item → Prop
  | nil : Prints [] []
  | padding {i : Item} {nodes : List Node} {items : List Item} (hi : i.isPadding = true)
      (hrest : Prints nodes items) : Prints nodes (i :: items)
  | data {s : String} {nodes : List Node} {items : List Item} (hrest : Prints nodes items) :
      Prints (.literal s :: nodes) (.data s :: items)
  | text {raw s : String} {nodes : List Node} {items : List Item}
      (hs : Text.allBlank s.toList = false) (hrest : Prints nodes items) :
      Prints (.literal s :: nodes) (.text raw s :: items)
  | entity {i : Item} {children nodes : List Node} {inside items : List Item}
      (hi : i.element? = some ("entity", inside)) (hinside : Prints children inside)
      (hrest : Prints nodes items) : Prints (.entity children :: nodes) (i :: items)
  | container {i : Item} {children nodes : List Node} {inside items : List Item}
      (hi : i.element? = some ("template", inside)) (hinside : Prints children inside)
      (hrest : Prints nodes items) : Prints (.container children :: nodes) (i :: items)
  | attributeList {i : Item} {fragment : Option String} {nodes : List Node}
      {inside items : List Item} (hi : i.element? = some ("attribute_list", inside))
      (hinside : PrintsFragment fragment inside) (hrest : Prints nodes items) :
      Prints (.attributeList fragment :: nodes) (i :: items)
  /-- What is inside the element does not matter. -/
  | ignored {i : Item} {name : String} {nodes : List Node} {inside items : List Item}
      (hi : i.element? = some (name, inside))
      (hname : name ∉ ["entity", "attribute_list", "template"]) (hrest : Prints nodes items) :
      Prints (.ignored name :: nodes) (i :: items)

/-- A document in which the nodes are printed inside one `template` element. -/
structure Printing (nodes : List Node) where
  before : List Item := []
  root : Item
  after : List Item := []
  inside : List Item
  isPadding_before : ∀ i ∈ before, i.isPadding = true
  isPadding_after : ∀ i ∈ after, i.isPadding = true
  element?_root : root.element? = some ("template", inside)
  prints : Prints nodes inside
  wellFormed : Item.AllWellFormed (before ++ root :: after)

namespace Printing

variable {nodes : List Node}

/-- The items of the document. -/
def items (p : Printing nodes) : List Item :=
  p.before ++ p.root :: p.after

/-- The text of the document. -/
def text (p : Printing nodes) : String :=
  String.ofList (Item.writeAll p.items)

end Printing

/-! ### Printable nodes -/

mutual

/-- The texts of the node can be character data, and its name that of an element without a meaning
of its own. -/
def Node.IsPrintable : Node → Prop
  | .literal s => ¬ "]]>".toList <:+: s.toList
  | .entity children => Node.AllPrintable children
  | .attributeList fragment => ∀ s, fragment = some s → ¬ "]]>".toList <:+: s.toList
  | .container children => Node.AllPrintable children
  | .ignored name =>
    Markup.IsName name.toList ∧ name ∉ ["entity", "attribute_list", "template"]

/-- All nodes are printable. -/
def Node.AllPrintable : List Node → Prop
  | [] => True
  | n :: ns => n.IsPrintable ∧ Node.AllPrintable ns

end

mutual

/-- The plain way to print a node: without attributes and padding, all texts as character data. -/
def Node.item : Node → Item
  | .literal s => .data s
  | .entity children => .element ⟨"entity", [], []⟩ (Node.items children) []
  | .attributeList fragment =>
    .element ⟨"attribute_list", [], []⟩ (fragment.toList.map .data) []
  | .container children => .element ⟨"template", [], []⟩ (Node.items children) []
  | .ignored name => .emptyElement ⟨name, [], []⟩

/-- The plain way to print some nodes. -/
def Node.items : List Node → List Item
  | [] => []
  | n :: ns => n.item :: Node.items ns

end

theorem isGap_nil : Markup.IsGap [] :=
  fun _ hc => absurd hc List.not_mem_nil

theorem wellFormed_plainTag {name : String} (h : Markup.IsName name.toList) :
    Markup.Tag.WellFormed ⟨name, [], []⟩ :=
  ⟨h, fun _ ha => absurd ha List.not_mem_nil, isGap_nil⟩

/-- No node is printed as a plain text, as all texts are printed as data. -/
theorem isText_item (n : Node) : n.item.isText = false := by
  cases n <;> rfl

mutual

/-- The plain way to print a node is well formed. The induction is on the node, whose children are
printed inside its tags. -/
theorem wellFormed_item (n : Node) (h : n.IsPrintable) : n.item.WellFormed := by
  cases n with
  | literal s =>
    rw [Node.IsPrintable] at h
    rwa [Node.item, Item.WellFormed]
  | entity children =>
    rw [Node.IsPrintable] at h
    rw [Node.item, Item.WellFormed]
    exact ⟨wellFormed_plainTag (by decide), wellFormed_items children h, isGap_nil⟩
  | attributeList fragment =>
    rw [Node.IsPrintable] at h
    rw [Node.item, Item.WellFormed]
    refine ⟨wellFormed_plainTag (by decide), ?_, isGap_nil⟩
    cases fragment with
    | none => exact trivial
    | some s =>
      have hs : (Item.data s).WellFormed := by
        rw [Item.WellFormed]
        exact h s rfl
      exact ⟨hs, rfl, trivial⟩
  | container children =>
    rw [Node.IsPrintable] at h
    rw [Node.item, Item.WellFormed]
    exact ⟨wellFormed_plainTag (by decide), wellFormed_items children h, isGap_nil⟩
  | ignored name =>
    rw [Node.IsPrintable] at h
    rw [Node.item, Item.WellFormed]
    exact wellFormed_plainTag h.1

/-- The plain way to print nodes is well formed; no two texts stand side by side. Data is no text in
this sense, so none is printed beside another one. -/
theorem wellFormed_items (nodes : List Node) (h : Node.AllPrintable nodes) :
    Item.AllWellFormed (Node.items nodes) := by
  cases nodes with
  | nil => exact trivial
  | cons n ns =>
    rw [Node.AllPrintable] at h
    rw [Node.items, Item.AllWellFormed, isText_item, Bool.false_and]
    exact ⟨wellFormed_item n h.1, rfl, wellFormed_items ns h.2⟩

end

mutual

/-- The plain way to print a node, in front of a printing of others, is a printing of all. The cases
are those of the node, with a rule of printing for each. -/
theorem prints_item_cons (n : Node) (h : n.IsPrintable) {nodes : List Node} {items : List Item}
    (hrest : Prints nodes items) : Prints (n :: nodes) (n.item :: items) := by
  cases n with
  | literal s => exact .data hrest
  | entity children =>
    rw [Node.IsPrintable] at h
    exact .entity rfl (prints_items children h) hrest
  | attributeList fragment =>
    refine .attributeList rfl ?_ hrest
    cases fragment with
    | none => exact .none fun _ hi => absurd hi List.not_mem_nil
    | some s =>
      have hnil : ∀ i ∈ ([] : List Item), i.isTextless = true :=
        fun _ hi => absurd hi List.not_mem_nil
      exact .data hnil hnil
  | container children =>
    rw [Node.IsPrintable] at h
    exact .container rfl (prints_items children h) hrest
  | ignored name =>
    rw [Node.IsPrintable] at h
    exact .ignored rfl h.2 hrest

/-- The plain way to print nodes is a printing of them. -/
theorem prints_items (nodes : List Node) (h : Node.AllPrintable nodes) :
    Prints nodes (Node.items nodes) := by
  cases nodes with
  | nil => exact .nil
  | cons n ns =>
    rw [Node.AllPrintable] at h
    exact prints_item_cons n h.1 (prints_items ns h.2)

end

/-! ### Printings of given nodes -/

namespace Printing

/-- The document that is one `template` element with some attributes. -/
def ofInside {nodes : List Node} (attributes : List Markup.Attribute)
    (hattributes : ∀ a ∈ attributes, a.WellFormed) (inside : List Item)
    (prints : Prints nodes inside) (hinside : Item.AllWellFormed inside) : Printing nodes where
  root := .element ⟨"template", attributes, []⟩ inside []
  inside := inside
  isPadding_before := fun _ hi => absurd hi List.not_mem_nil
  isPadding_after := fun _ hi => absurd hi List.not_mem_nil
  element?_root := rfl
  prints := prints
  wellFormed :=
    have hname : Markup.IsName "template".toList := by decide
    ⟨⟨⟨hname, hattributes, isGap_nil⟩, hinside, isGap_nil⟩, rfl, trivial⟩

/-- The plain printing of some nodes. -/
def plain {nodes : List Node} (h : Node.AllPrintable nodes) : Printing nodes :=
  ofInside [] (fun _ ha => absurd ha List.not_mem_nil) (Node.items nodes) (prints_items nodes h)
    (wellFormed_items nodes h)

end Printing

end Template

end EntityScript
