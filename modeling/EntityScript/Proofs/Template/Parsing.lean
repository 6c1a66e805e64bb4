import EntityScript.Proofs.Markup.Reading
import EntityScript.Proofs.Template.Descent
import EntityScript.Proofs.Template.Printing

/-!
# Reading printed templates

A well-formed document has a tree (`treesOfItem`), which is what the reader of templates makes of
its events: padding gives no trees, and character data always gives one. The nodes of the trees of
a printing are those that were printed (`Prints.nodes_eq`).

**Main statement**: every printing of a list of nodes is read as that list, and every list of
printable nodes has a printing (`Document.parse_printing`).
-/

namespace EntityScript

namespace Template

open Markup (Item)

/-! ### Trees -/

mutual

/-- The trees of an item, of which there is at most one. -/
def treesOfItem : Item → List Tree
  | .text _ s => if Text.allBlank s.toList then [] else [.text s]
  | .data s => [.text s]
  | .comment _ | .instruction _ => []
  | .element tag children _ => [.element tag.name (treesOfItems children)]
  | .emptyElement tag => [.element tag.name []]

/-- The trees of some items. -/
def treesOfItems : List Item → List Tree
  | [] => []
  | i :: is => treesOfItem i ++ treesOfItems is

end

theorem treesOfItems_append (is js : List Item) :
    treesOfItems (is ++ js) = treesOfItems is ++ treesOfItems js := by
  induction is with
  | nil => rfl
  | cons i is ih => rw [List.cons_append, treesOfItems, ih, treesOfItems, List.append_assoc]

/-- Padding gives no tree: comments and instructions are passed over, and so are blank texts. All of
these may stand anywhere in a template. -/
theorem treesOfItem_of_isPadding {i : Item} (h : i.isPadding = true) : treesOfItem i = [] := by
  cases i with
  | text raw s => exact if_pos h
  | comment s | instruction s => rfl
  | data s => cases h
  | element tag children gap => cases h
  | emptyElement tag => cases h

/-- However much padding there is, it gives no tree. -/
theorem treesOfItems_of_isPadding {is : List Item} (h : ∀ i ∈ is, i.isPadding = true) :
    treesOfItems is = [] := by
  induction is with
  | nil => rfl
  | cons i is ih =>
    rw [treesOfItems, treesOfItem_of_isPadding (h i List.mem_cons_self), List.nil_append]
    exact ih fun j hj => h j (List.mem_cons_of_mem i hj)

/-- An element gives one tree, whether it is written with one tag or with two. It has the trees of
its content below it. -/
theorem treesOfItem_of_element? {i : Item} {name : String} {inside : List Item}
    (h : i.element? = some (name, inside)) :
    treesOfItem i = [.element name (treesOfItems inside)] := by
  cases i with
  | element tag children gap => cases h; rfl
  | emptyElement tag => cases h; rfl
  | text raw s | data s | comment s | instruction s => cases h

mutual

/-- The events of an item are read as its trees. The induction is on the item, whose content is read
inside its tags. -/
theorem items_events (i : Item) (h : i.WellFormed) : Items i.events (treesOfItem i) := by
  cases i with
  | text raw s =>
    rw [Item.WellFormed] at h
    have hs : Markup.unescape raw = .ok s := Markup.unescape_of_spells h.2
    rw [Item.events, treesOfItem]
    split
    · next hblank => exact .blank hs hblank .nil
    · next hblank => exact .text hs (Bool.not_eq_true _ ▸ hblank) .nil
  | data s => exact .data .nil
  | comment s | instruction s => exact .aside .nil
  | emptyElement tag => exact .empty .nil
  | element tag children gap =>
    rw [Item.WellFormed] at h
    exact .element (items_eventsAll children h.2.1) .nil

/-- The events of items are read as their trees, one item after the other. Their events stand one
behind the other. -/
theorem items_eventsAll (is : List Item) (h : Item.AllWellFormed is) :
    Items (Item.eventsAll is) (treesOfItems is) := by
  cases is with
  | nil => exact .nil
  | cons i is =>
    rw [Item.AllWellFormed] at h
    exact (items_events i h.1).append (items_eventsAll is h.2.2)

end

theorem treesOf_eventsAll {is : List Item} (h : Item.AllWellFormed is) :
    treesOf ⟨Item.eventsAll is, .complete⟩ = .ok (treesOfItems is) :=
  treesOf_of_items (items_eventsAll is h)

/-! ### Nodes -/

theorem Tree.nodes_append (ts us : List Tree) :
    Tree.nodes (ts ++ us) = Tree.nodes ts ++ Tree.nodes us := by
  induction ts with
  | nil => rfl
  | cons t ts ih => rw [List.cons_append, Tree.nodes, ih, Tree.nodes, List.cons_append]

section

variable (ts : List Tree)

theorem Tree.node_entity : (Tree.element "entity" ts).node = .entity (Tree.nodes ts) := by
  rw [Tree.node, entityElement, if_pos rfl]

theorem Tree.node_attributeList :
    (Tree.element "attribute_list" ts).node = .attributeList (firstText? ts) := by
  rw [Tree.node, entityElement, attributeListElement, if_neg (by decide), if_pos rfl]

theorem Tree.node_container : (Tree.element "template" ts).node = .container (Tree.nodes ts) := by
  rw [Tree.node, entityElement, attributeListElement, templateElement, if_neg (by decide),
    if_neg (by decide), if_pos rfl]

/-- An element of any other name is made an ignored node, whatever it holds. What it holds is not
looked at. -/
theorem Tree.node_ignored {name : String} (h : name ∉ ["entity", "attribute_list", "template"]) :
    (Tree.element name ts).node = .ignored name := by
  simp only [List.mem_cons, List.not_mem_nil, or_false, not_or] at h
  rw [Tree.node, entityElement, attributeListElement, templateElement, if_neg h.1, if_neg h.2.1,
    if_neg h.2.2]

end

/-- Texts are found behind what gives none, be it padding or elements. -/
theorem firstText?_of_isTextless {is : List Item} (h : ∀ i ∈ is, i.isTextless = true)
    (rest : List Tree) : firstText? (treesOfItems is ++ rest) = firstText? rest := by
  induction is with
  | nil => rfl
  | cons i is ih =>
    have hrest := ih fun j hj => h j (List.mem_cons_of_mem i hj)
    rw [treesOfItems, List.append_assoc]
    -- Padding gives no tree, and the search passes over an element.
    rcases Bool.or_eq_true_iff.mp (h i List.mem_cons_self) with hi | hi
    · rw [treesOfItem_of_isPadding hi, List.nil_append, hrest]
    · obtain ⟨⟨name, inside⟩, hi⟩ := Option.isSome_iff_exists.mp hi
      rw [treesOfItem_of_element? hi, ← hrest]
      rfl

/-- The fragment of an attribute list is found where it was printed. An attribute list without a
fragment has no text in it. -/
theorem PrintsFragment.firstText?_eq {fragment : Option String} {inside : List Item}
    (h : PrintsFragment fragment inside) : firstText? (treesOfItems inside) = fragment := by
  cases h with
  | none h =>
    have hnone := firstText?_of_isTextless h []
    rwa [List.append_nil] at hnone
  | data hbefore _ =>
    rw [treesOfItems_append, firstText?_of_isTextless hbefore]
    rfl
  | text hs hbefore _ =>
    rw [treesOfItems_append, firstText?_of_isTextless hbefore, treesOfItems, treesOfItem, hs]
    rfl

/-- The nodes of a printing are those that were printed. The induction is on the printing, one node
or one piece of padding at a time. -/
theorem Prints.nodes_eq {nodes : List Node} {items : List Item} (h : Prints nodes items) :
    Tree.nodes (treesOfItems items) = nodes := by
  induction h with
  | nil => rfl
  | padding hi _ ih => rw [treesOfItems, treesOfItem_of_isPadding hi, List.nil_append, ih]
  | data _ ih =>
    rw [treesOfItems, Tree.nodes_append, ih]
    rfl
  | text hs _ ih =>
    rw [treesOfItems, Tree.nodes_append, ih, treesOfItem, hs]
    rfl
  | entity hi _ _ hinside hrest =>
    rw [treesOfItems, treesOfItem_of_element? hi, List.singleton_append, Tree.nodes,
      Tree.node_entity, hinside, hrest]
  | container hi _ _ hinside hrest =>
    rw [treesOfItems, treesOfItem_of_element? hi, List.singleton_append, Tree.nodes,
      Tree.node_container, hinside, hrest]
  | attributeList hi hinside _ hrest =>
    rw [treesOfItems, treesOfItem_of_element? hi, List.singleton_append, Tree.nodes,
      Tree.node_attributeList, hinside.firstText?_eq, hrest]
  | ignored hi hname _ hrest =>
    rw [treesOfItems, treesOfItem_of_element? hi, List.singleton_append, Tree.nodes,
      Tree.node_ignored _ hname, hrest]

/-! ### Reading -/

/-- What gives no text starts with markup, with a blank or with a reference to one. None of these is
a byte-order mark. -/
theorem head?_write_of_isTextless {i : Item} (hi : i.isTextless = true) (h : i.WellFormed)
    (rest : List Char) : (i.write ++ rest).head? ≠ some '\ufeff' := by
  cases i with
  | text raw s =>
    rw [Item.WellFormed] at h
    have hblank : Text.allBlank s.toList = true := by
      rwa [Item.isTextless, Item.element?, Option.isSome_none, Bool.or_false] at hi
    obtain ⟨c, t, hraw⟩ := List.exists_cons_of_ne_nil fun hnil =>
      h.1 (String.toList_eq_nil_iff.mp hnil)
    rw [Item.write, hraw]
    intro heq
    obtain rfl : c = '\ufeff' := Option.some.inj heq
    obtain ⟨rest, hs⟩ := Markup.exists_eq_cons_of_spells_cons (by decide) (hraw ▸ h.2)
    rw [hs, Text.allBlank, List.all_cons] at hblank
    exact absurd (Bool.and_eq_true_iff.mp hblank).1 (by decide)
  | data s | comment s | instruction s | element tag children gap | emptyElement tag =>
    exact fun heq => absurd (show '<' = '\ufeff' from Option.some.inj heq) (by decide)

namespace Printing

variable {nodes : List Node} (p : Printing nodes)

theorem treesOfItems_eq :
    treesOfItems p.items = [.element "template" (treesOfItems p.inside)] := by
  rw [items, treesOfItems_append, treesOfItems, treesOfItems_of_isPadding p.isPadding_before,
    treesOfItems_of_isPadding p.isPadding_after, treesOfItem_of_element? p.element?_root]
  rfl

/-- The document starts with markup or a blank text, and so not with a byte-order mark. -/
theorem head?_writeAll : (Item.writeAll p.items).head? ≠ some '\ufeff' := by
  obtain ⟨i, is, hitems, hi⟩ : ∃ i is, p.items = i :: is ∧ i.isTextless = true := by
    rw [items]
    cases hbefore : p.before with
    | nil =>
      refine ⟨p.root, p.after, rfl, ?_⟩
      rw [Item.isTextless, p.element?_root, Option.isSome_some, Bool.or_true]
    | cons i is =>
      have hi : i.isPadding = true := p.isPadding_before i (hbefore ▸ List.mem_cons_self)
      exact ⟨i, is ++ p.root :: p.after, rfl, by rw [Item.isTextless, hi, Bool.true_or]⟩
  have hwell : Item.AllWellFormed (i :: is) := hitems ▸ p.wellFormed
  rw [Item.AllWellFormed] at hwell
  rw [hitems, Item.writeAll]
  exact head?_write_of_isTextless hi hwell.1 _

end Printing

/-- **Reading a template undoes printing it**, however it is printed, and all printable nodes can be
printed. -/
theorem Document.parse_printing (nodes : List Node) :
    (∀ p : Printing nodes, Document.parse p.text = .ok ⟨nodes⟩) ∧
      (Node.AllPrintable nodes → Nonempty (Printing nodes)) := by
  refine ⟨fun p => ?_, fun h => ⟨.plain h⟩⟩
  have hread : Markup.read p.text = ⟨Item.eventsAll p.items, .complete⟩ :=
    Markup.read_writeAll p.wellFormed p.head?_writeAll
  have htrees : treesOf ⟨Item.eventsAll p.items, .complete⟩ =
      .ok [.element "template" (treesOfItems p.inside)] :=
    (treesOf_eventsAll p.wellFormed).trans (congrArg Except.ok p.treesOfItems_eq)
  have hnodes : Tree.nodes (unwrapRoot [.element "template" (treesOfItems p.inside)]) = nodes :=
    p.prints.nodes_eq
  rw [Document.parse, hread, Document.ofReading, htrees]
  exact congrArg (Except.ok ∘ Document.mk) hnodes

/-- A printing with an attribute, padding and an escaped text. -/
def Printing.padded :
    Printing [.literal "a < b", .entity [.attributeList none], .ignored "notes"] :=
  have hattribute : Markup.Attribute.WellFormed
      ⟨[' '], "mark".toList, [], [], '"', "a>b".toList⟩ :=
    ⟨by decide, by decide, by decide, by decide, by decide, .inr rfl, by decide⟩
  have hentity : (Node.entity [.attributeList none]).IsPrintable :=
    ⟨fun _ hs => (nomatch hs), trivial⟩
  have hnotes : (Node.ignored "notes").IsPrintable := ⟨by decide, by decide⟩
  have hcomment : ¬ "--".toList <:+: " note ".toList := by decide
  have hescaped : Markup.Spells "a &lt; b".toList "a < b".toList :=
    Markup.spells_escape "a < b".toList
  have hbreak : Markup.Spells "\n".toList "\n".toList := Markup.spells_escape "\n".toList
  .ofInside [_] (fun _ ha => List.mem_singleton.mp ha ▸ hattribute)
    [.comment " note ".toList, .text "a &lt; b" "a < b",
      (Node.entity [.attributeList none]).item, .text "\n" "\n", (Node.ignored "notes").item]
    (.padding rfl <| .text (by decide) <| prints_item_cons _ hentity <|
      .padding (by decide) <| prints_item_cons _ hnotes .nil)
    ⟨hcomment, rfl, ⟨by decide, hescaped⟩, rfl, wellFormed_item _ hentity, rfl,
      ⟨by decide, hbreak⟩, rfl, wellFormed_item _ hnotes, rfl, trivial⟩

theorem Document.parse_printing_padded :
    Document.parse ("<template mark=\"a>b\"><!-- note -->a &lt; b" ++
        "<entity><attribute_list></attribute_list></entity>\n<notes/></template>") =
      .ok ⟨[.literal "a < b", .entity [.attributeList none], .ignored "notes"]⟩ := by
  have htext : Printing.padded.text = "<template mark=\"a>b\"><!-- note -->a &lt; b" ++
      "<entity><attribute_list></attribute_list></entity>\n<notes/></template>" := by
    decide +kernel
  exact htext ▸ (Document.parse_printing _).1 Printing.padded

end Template

end EntityScript
