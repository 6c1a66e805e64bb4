import EntityScript.Proofs.Template.Outlining
import EntityScript.Proofs.Template.Wrapping
import Mathlib.Tactic.SplitIfs

/-!
# Names of elements

The name of an element ends before the first white space of its tag, so the reader delivers no name
with white space in it (`Markup.isSpaceless_of_mem_read`). The elements of a document have the names
with which they begin (`Items.forall_names`), and a node of a template has the name of its element,
or that of a text.

**Main statement**: no node of a template that was read has white space in its name
(`Document.isSpaceless_name_of_parse`).
-/

namespace EntityScript

namespace Markup

/-- The name of the element that begins with an event. -/
def Event.element? : Event → Option String
  | .start name | .empty name => some name
  | .stop _ | .text _ | .data _ | .aside => none

/-- The name of an element has no white space in it. -/
def IsSpaceless (name : String) : Prop :=
  ∀ c ∈ name.toList, isSpace c = false

instance (name : String) : Decidable (IsSpaceless name) :=
  List.decidableBAll (fun c : Char => isSpace c = false) name.toList

/-- The name in a tag ends before the first white space. -/
theorem isSpaceless_tagName (content : List Char) : IsSpaceless (tagName content) := by
  intro c hc
  rw [tagName, String.toList_ofList] at hc
  simpa using List.all_eq_true.mp List.all_takeWhile c hc

section

variable {opened : List String} {s rest : List Char} {e : Event} {name : String}

/-- Comments, sections and declarations begin no element. The same holds of instructions and closing
tags. -/
theorem element?_of_bangPiece (h : bangPiece s = .event e rest) : e.element? = none := by
  unfold bangPiece at h
  repeat' split at h
  all_goals cases h <;> rfl

theorem element?_of_instructionPiece (h : instructionPiece s = .event e rest) :
    e.element? = none := by
  unfold instructionPiece at h
  repeat' split at h
  all_goals cases h <;> rfl

theorem element?_of_closingPiece (h : closingPiece opened s = .event e rest) :
    e.element? = none := by
  unfold closingPiece at h
  grind [Event.element?]

theorem isSpaceless_of_openingPiece (h : openingPiece s = .event e rest)
    (hname : e.element? = some name) : IsSpaceless name := by
  unfold openingPiece at h
  grind [Event.element?, isSpaceless_tagName]

/-- Only opening tags begin elements, and their names end before any white space. -/
theorem isSpaceless_of_markupPiece (h : markupPiece opened s = .event e rest)
    (hname : e.element? = some name) : IsSpaceless name := by
  unfold markupPiece at h
  split at h
  · cases h
  · cases (element?_of_bangPiece h).symm.trans hname
  · cases (element?_of_closingPiece h).symm.trans hname
  · cases (element?_of_instructionPiece h).symm.trans hname
  · exact isSpaceless_of_openingPiece h hname

end

/-- No element that the reader delivers has white space in its name, wherever it ends. This holds of
a document with faults as well, up to the first of them. -/
theorem isSpaceless_of_mem_readWithin (fuel : Nat) (opened : List String) (offset : Nat)
    (s : List Char) : ∀ e ∈ (readWithin fuel opened offset s).events, ∀ name,
      e.element? = some name → IsSpaceless name := by
  fun_induction readWithin fuel opened offset s with
  | case1 | case2 | case3 => exact List.forall_mem_nil _
  | case4 fuel opened offset s e rest hpiece taken later ih =>
    exact List.forall_mem_cons.mpr ⟨fun name => isSpaceless_of_markupPiece hpiece, ih⟩
  | case5 fuel opened offset s hne hlt raw later ih =>
    exact List.forall_mem_cons.mpr ⟨by rintro _ ⟨⟩, ih⟩

/-- **Element names have no white space.** A line feed is white space, so a name stays on its line
in a log. -/
theorem isSpaceless_of_mem_read (s : String) : ∀ e ∈ (read s).events, ∀ name,
    e.element? = some name → IsSpaceless name :=
  isSpaceless_of_mem_readWithin _ _ _ _

end Markup

namespace Template

open Markup (Event IsSpaceless)

/-! ### Trees -/

mutual

/-- The names of the elements of a tree. -/
def Tree.names : Tree → List String
  | .element name children => name :: Tree.namesAll children
  | .text _ => []

/-- The names of the elements of trees. -/
def Tree.namesAll : List Tree → List String
  | [] => []
  | t :: ts => t.names ++ Tree.namesAll ts

end

/-- What holds of the names of the elements that begin holds of the names of all elements. The
induction is on the derivation of the trees. -/
theorem Items.forall_names {P : String → Prop} {es : List Event} {ts : List Tree} (h : Items es ts)
    (hes : ∀ e ∈ es, ∀ name, e.element? = some name → P name) :
    ∀ name ∈ Tree.namesAll ts, P name := by
  induction h with
  | nil => exact List.forall_mem_nil _
  | text _ _ _ ih | blank _ _ _ ih | data _ ih | aside _ ih =>
    exact ih (List.forall_mem_cons.mp hes).2
  | empty _ ih =>
    obtain ⟨he, hes⟩ := List.forall_mem_cons.mp hes
    exact List.forall_mem_cons.mpr ⟨he _ rfl, ih hes⟩
  | element _ _ hchildren ih =>
    obtain ⟨he, hes⟩ := List.forall_mem_cons.mp hes
    obtain ⟨hinside, hrest⟩ := List.forall_mem_append.mp hes
    exact List.forall_mem_cons.mpr ⟨he _ rfl, List.forall_mem_append.mpr
      ⟨hchildren hinside, ih (List.forall_mem_cons.mp hrest).2⟩⟩

/-! ### Nodes -/

section

variable {P : String → Prop}

mutual

/-- A node has the name of its element, or that of a text; so have the nodes below it. The one case
to check by itself is that of texts. -/
theorem Tree.forall_name_node (htext : P (Node.literal "").name) :
    ∀ t : Tree, (∀ name ∈ t.names, P name) →
      P t.node.name ∧ ∀ item ∈ t.node.listing, P item.2.name
  | .text s, _ => ⟨htext, List.forall_mem_nil _⟩
  | .element name children, h => by
    obtain ⟨hname, hchildren⟩ := List.forall_mem_cons.mp h
    have hbelow := Tree.forall_name_nodes htext 0 children hchildren
    rw [Tree.node]
    split_ifs with hentity hlist htemplate
    · subst hentity
      exact ⟨hname, hbelow⟩
    · subst hlist
      exact ⟨hname, List.forall_mem_nil _⟩
    · subst htemplate
      exact ⟨hname, hbelow⟩
    · exact ⟨hname, List.forall_mem_nil _⟩

/-- The nodes made of trees have the names of their elements, and so have the nodes below them. -/
theorem Tree.forall_name_nodes (htext : P (Node.literal "").name) (k : Nat) :
    ∀ ts : List Tree, (∀ name ∈ Tree.namesAll ts, P name) →
      ∀ item ∈ Node.listingFrom k (Tree.nodes ts), P item.2.name
  | [], _ => List.forall_mem_nil _
  | t :: ts, h => by
    obtain ⟨ht, hts⟩ := List.forall_mem_append.mp h
    obtain ⟨hname, hbelow⟩ := Tree.forall_name_node htext t ht
    refine List.forall_mem_append.mpr ⟨List.forall_mem_cons.mpr ⟨hname, ?_⟩,
      Tree.forall_name_nodes htext (k + 1) ts hts⟩
    rintro _ hmem
    obtain ⟨item, hitem, rfl⟩ := List.mem_map.mp hmem
    exact hbelow item hitem

end

end

namespace Document

/-- Taking the root away takes no names in. The trees that are left are some of the trees that were
there. -/
theorem forall_names_unwrapRoot {P : String → Prop} {ts : List Tree}
    (h : ∀ name ∈ Tree.namesAll ts, P name) : ∀ name ∈ Tree.namesAll (unwrapRoot ts), P name := by
  unfold unwrapRoot
  split
  · next name children =>
    split
    · exact (List.forall_mem_cons.mp (List.forall_mem_append.mp h).1).2
    · exact h
  · exact h

/-- **Nodes of a template that was read** have no white space in their names. The name of a text is
fixed and has none. -/
theorem isSpaceless_name_of_parse {s : String} {d : Document} (h : parse s = .ok d) :
    ∀ item ∈ d.listing, IsSpaceless item.2.name := by
  obtain ⟨-, ts, hitems, rfl⟩ := parse_eq_ok_iff.mp h
  exact Tree.forall_name_nodes (by decide) 0 _
    (forall_names_unwrapRoot (hitems.forall_names (Markup.isSpaceless_of_mem_read s)))

end Document

end Template

end EntityScript
