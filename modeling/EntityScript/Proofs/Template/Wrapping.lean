import EntityScript.Proofs.Markup.Continuation
import EntityScript.Proofs.Template.Descent
import EntityScript.Proofs.Template.Printing

/-!
# The root of a template

A template may be written with a root element or without one. A root is the one element at the top
level of a document (`HasLoneElement`), with nothing but comments, blank texts and the like around
it (`IsPadding`), unless its name gives it a meaning of its own. An element put around a template is
a root of that kind, as nothing else is at the top level then.

**Main statement**: such an element changes nothing in a template without a root, and turns a root
that is there into an ordinary element, the one node of the template (`Document.parse_wrapped`).
-/

namespace EntityScript

namespace Template

open Markup (Event Nested Tag enclose)

/-! ### Lone elements -/

/-- The event has no part in the tree of a document. -/
inductive IsPadding : Event → Prop
  /-- A comment, declaration, processing instruction or document type. -/
  | aside : IsPadding .aside
  | blank {raw s : String} (hs : Markup.unescape raw = .ok s)
    (hblank : Text.allBlank s.toList = true) : IsPadding (.text raw)

/-- The events are those of one element of the name, with whatever is nested in it. -/
inductive IsElement (name : String) : List Event → Prop
  | empty : IsElement name [.empty name]
  | tags {inside : List Event} (hinside : Nested inside) :
    IsElement name (.start name :: (inside ++ [.stop name]))

/-- The events are those of one element of the name, with padding around it. -/
def HasLoneElement (es : List Event) (name : String) : Prop :=
  ∃ before element after, es = before ++ (element ++ after) ∧ (∀ e ∈ before, IsPadding e) ∧
    IsElement name element ∧ ∀ e ∈ after, IsPadding e

section

variable {es : List Event} {ts : List Tree} {name : String}

/-- Padding is read as no tree, however much of it there is. Each of its events is passed over by
itself. -/
theorem items_of_isPadding (h : ∀ e ∈ es, IsPadding e) : Items es [] := by
  induction es with
  | nil => exact .nil
  | cons e es ih =>
    have hrest := ih fun d hd => h d (List.mem_cons_of_mem e hd)
    cases h e List.mem_cons_self with
    | aside => exact .aside hrest
    | blank hs hblank => exact .blank hs hblank hrest

/-- Events without a tree are padding, as every element and every other text gives one. -/
theorem Items.isPadding (h : Items es []) : ∀ e ∈ es, IsPadding e := by
  generalize hts : ([] : List Tree) = ts at h
  induction h with
  | nil => exact fun e he => absurd he List.not_mem_nil
  | blank hs hblank _ ih => exact List.forall_mem_cons.mpr ⟨.blank hs hblank, ih hts⟩
  | aside _ ih => exact List.forall_mem_cons.mpr ⟨.aside, ih hts⟩
  | text | data | empty | element => cases hts

/-- Before the events of the first tree of a list there is padding, and behind them those of the
other trees. -/
theorem Items.exists_element {children : List Tree} (h : Items es (.element name children :: ts)) :
    ∃ before element after, es = before ++ (element ++ after) ∧ (∀ e ∈ before, IsPadding e) ∧
      IsElement name element ∧ Items after ts := by
  generalize hall : Tree.element name children :: ts = all at h
  have hnil : ∀ e ∈ ([] : List Event), IsPadding e := fun e he => absurd he List.not_mem_nil
  induction h with
  | nil | text | data => cases hall
  | @blank raw s es _ hs hblank _ ih =>
    obtain ⟨before, element, after, rfl, hbefore, helement, hafter⟩ := ih hall
    exact ⟨.text raw :: before, element, after, rfl,
      List.forall_mem_cons.mpr ⟨.blank hs hblank, hbefore⟩, helement, hafter⟩
  | aside _ ih =>
    obtain ⟨before, element, after, rfl, hbefore, helement, hafter⟩ := ih hall
    exact ⟨.aside :: before, element, after, rfl, List.forall_mem_cons.mpr ⟨.aside, hbefore⟩,
      helement, hafter⟩
  | @empty _ es _ h =>
    cases hall
    exact ⟨[], _, es, rfl, hnil, .empty, h⟩
  | @element _ inside es _ _ hinside h =>
    cases hall
    refine ⟨[], _, es, ?_, hnil, .tags hinside.nested, h⟩
    rw [List.nil_append, List.cons_append, List.append_assoc, List.singleton_append]

/-- The events of an element are read as one tree, if its texts can be unescaped. Its events are
nested between its two tags. -/
theorem IsElement.exists_items (h : IsElement name es) (htexts : TextsUnescape es) :
    ∃ children, Items es [.element name children] := by
  cases h with
  | empty => exact ⟨[], .empty .nil⟩
  | tags hinside =>
    have hunescape := (textsUnescape_append.mp (textsUnescape_cons.mp htexts).2).1
    obtain ⟨children, hchildren⟩ := exists_items_of_nested hinside hunescape
    exact ⟨children, .element hchildren .nil⟩

theorem Items.unique {us : List Tree} (h : Items es ts) (h' : Items es us) : ts = us :=
  Except.ok.inj ((treesOf_of_items h).symm.trans (treesOf_of_items h'))

/-- **A document with a lone element** is one whose only tree is an element. So the question whether
there is a root can be asked of events alone. -/
theorem Items.hasLoneElement_iff (h : Items es ts) :
    HasLoneElement es name ↔ ∃ children, ts = [.element name children] := by
  constructor
  · rintro ⟨before, element, after, rfl, hbefore, helement, hafter⟩
    obtain ⟨-, hrest⟩ := textsUnescape_append.mp h.textsUnescape
    obtain ⟨children, hchildren⟩ := helement.exists_items (textsUnescape_append.mp hrest).1
    exact ⟨children, h.unique ((items_of_isPadding hbefore).append
      (hchildren.append (items_of_isPadding hafter)))⟩
  · rintro ⟨children, rfl⟩
    obtain ⟨before, element, after, hes, hbefore, helement, hafter⟩ := h.exists_element
    exact ⟨before, element, after, hes, hbefore, helement, hafter.isPadding⟩

end

/-! ### Wrapped documents -/

/-- The text inside an element without attributes. -/
def wrapped (name s : String) : String :=
  "<" ++ name ++ ">" ++ s ++ "</" ++ name ++ ">"

theorem wrapped_eq (name s : String) :
    wrapped name s = String.ofList (enclose "<" (Tag.write ⟨name, [], []⟩) ">" ++
      (s.toList ++ enclose "</" (name.toList ++ []) ">")) := by
  refine String.toList_inj.mp ?_
  simp [wrapped, enclose, Tag.write, Tag.writeAfterName]

/-- Only a lone element that can be a root is taken for one. Several trees, a text and an entity by
itself are left as they are. -/
theorem unwrapRoot_eq_self {ts : List Tree}
    (h : ¬ ∃ name children, isRootName name = true ∧ ts = [.element name children]) :
    unwrapRoot ts = ts := by
  unfold unwrapRoot
  split
  · next name children =>
    exact if_neg fun hroot => h ⟨name, children, hroot, rfl⟩
  · rfl

theorem unwrapRoot_element {name : String} (h : isRootName name = true) (children : List Tree) :
    unwrapRoot [.element name children] = children :=
  if_pos h

/-- What an element that can be a root is made to inside another one: a container if it is named as
a template is, and otherwise an ignored node. -/
theorem Tree.node_of_isRootName {name : String} (h : isRootName name = true)
    (children : List Tree) : (Tree.element name children).node =
      if name = templateElement then .container (Tree.nodes children) else .ignored name := by
  obtain ⟨hentity, hlist⟩ := Bool.and_eq_true_iff.mp h
  rw [Tree.node, if_neg (bne_iff_ne.mp hentity), if_neg (bne_iff_ne.mp hlist)]

theorem parse_eq_ok_iff {s : String} {d : Document} : Document.parse s = .ok d ↔
    (Markup.read s).ending = .complete ∧
      ∃ ts, Items (Markup.read s).events ts ∧ d = ⟨Tree.nodes (unwrapRoot ts)⟩ := by
  rw [Document.parse, Document.ofReading_eq_ok_iff]
  simp only [treesOf_eq_ok_iff (Markup.endsMatch_read s), and_assoc, exists_and_left]

/-- A wrapped document gives the nodes of its trees, none of which is taken for the root. The
element around it is the root now, and it is taken off. -/
theorem parse_wrapped_of_items {s name : String} {ts : List Tree}
    (hmark : s.toList.head? ≠ some '\ufeff') (hcomplete : (Markup.read s).ending = .complete)
    (hitems : Items (Markup.read s).events ts) (hname : Markup.IsName name.toList)
    (hroot : isRootName name = true) :
    Document.parse (wrapped name s) = .ok ⟨Tree.nodes ts⟩ := by
  have hread := Markup.read_between_tags hmark hcomplete hitems.nested
    (wellFormed_plainTag hname) isGap_nil
  rw [← wrapped_eq] at hread
  have helement : Items (.start name :: ((Markup.read s).events ++ [.stop name]))
      [.element name ts] := .element hitems .nil
  rw [parse_eq_ok_iff, hread]
  exact ⟨rfl, _, helement, by rw [unwrapRoot_element hroot]⟩

/-- **Wrapping a template in a root** changes nothing if it has none, and else keeps its root as the
one node. -/
theorem Document.parse_wrapped {s name : String} {d : Document} (h : Document.parse s = .ok d)
    (hmark : s.toList.head? ≠ some '\ufeff') (hname : Markup.IsName name.toList)
    (hroot : isRootName name = true) :
    ((¬ ∃ root, isRootName root = true ∧ HasLoneElement (Markup.read s).events root) →
      Document.parse (wrapped name s) = .ok d) ∧
    ∀ root, isRootName root = true → HasLoneElement (Markup.read s).events root →
      Document.parse (wrapped name s) =
        .ok ⟨[if root = templateElement then .container d.nodes else .ignored root]⟩ := by
  obtain ⟨hcomplete, ts, hitems, rfl⟩ := parse_eq_ok_iff.mp h
  rw [parse_wrapped_of_items hmark hcomplete hitems hname hroot]
  constructor
  · intro hnone
    rw [unwrapRoot_eq_self]
    rintro ⟨root, children, hisRoot, hts⟩
    exact hnone ⟨root, hisRoot, hitems.hasLoneElement_iff.mpr ⟨children, hts⟩⟩
  · intro root hisRoot hlone
    obtain ⟨children, rfl⟩ := hitems.hasLoneElement_iff.mp hlone
    rw [unwrapRoot_element hisRoot, Tree.nodes, Tree.node_of_isRootName hisRoot]
    rfl

/-- A lone entity is no root, and a comment before a root does not keep it from being one. -/
theorem Document.parse_wrapped_entity_and_root :
    Document.parse (wrapped "page" "<entity>a &lt; b</entity>\n") =
      .ok ⟨[.entity [.literal "a < b"]]⟩ ∧
    Document.parse (wrapped "page" "<!-- note -->\n<template>a<b/></template>") =
      .ok ⟨[.container [.literal "a", .ignored "b"]]⟩ := by
  have hname : Markup.IsName "page".toList := by decide
  have hbreak : Markup.unescape "\n" = .ok "\n" :=
    Markup.unescape_of_spells (Markup.spells_escape "\n".toList)
  constructor
  · have hread : Markup.read "<entity>a &lt; b</entity>\n" =
        ⟨[.start "entity", .text "a &lt; b", .stop "entity", .text "\n"], .complete⟩ := by
      decide +kernel
    have hescaped : Markup.unescape "a &lt; b" = .ok "a < b" :=
      Markup.unescape_of_spells (Markup.spells_escape "a < b".toList)
    have hitems : Items (Markup.read "<entity>a &lt; b</entity>\n").events
        [.element "entity" [.text "a < b"]] := by
      rw [hread]
      exact .element (.text hescaped (by decide) .nil) (.blank hbreak (by decide) .nil)
    have hparse : Document.parse "<entity>a &lt; b</entity>\n" =
        .ok ⟨[.entity [.literal "a < b"]]⟩ :=
      parse_eq_ok_iff.mpr ⟨congrArg Markup.Reading.ending hread, _, hitems, rfl⟩
    refine (Document.parse_wrapped hparse (by decide) hname (by decide)).1 ?_
    rintro ⟨root, hroot, hlone⟩
    obtain ⟨_, heq⟩ := hitems.hasLoneElement_iff.mp hlone
    cases heq
    exact absurd hroot (by decide)
  · have hread : Markup.read "<!-- note -->\n<template>a<b/></template>" =
        ⟨[.aside, .text "\n", .start "template", .text "a", .empty "b", .stop "template"],
          .complete⟩ := by
      decide +kernel
    have htext : Markup.unescape "a" = .ok "a" :=
      Markup.unescape_of_spells (Markup.spells_escape "a".toList)
    have hitems : Items (Markup.read "<!-- note -->\n<template>a<b/></template>").events
        [.element "template" [.text "a", .element "b" []]] := by
      rw [hread]
      exact .aside (.blank hbreak (by decide)
        (.element (.text htext (by decide) (.empty .nil)) .nil))
    have hparse : Document.parse "<!-- note -->\n<template>a<b/></template>" =
        .ok ⟨[.literal "a", .ignored "b"]⟩ :=
      parse_eq_ok_iff.mpr ⟨congrArg Markup.Reading.ending hread, _, hitems, rfl⟩
    exact (Document.parse_wrapped hparse (by decide) hname (by decide)).2 "template" (by decide)
      (hitems.hasLoneElement_iff.mpr ⟨_, rfl⟩)

end Template

end EntityScript
