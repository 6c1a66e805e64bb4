import EntityScript.Template.Document
import Mathlib.Data.List.Forall2

/-!
# From elements to nodes

What the elements of a document stand for, stated by their names. A tree is converted to a node
(`Converts`): text to a literal, an entity or container with all of its children in their order, an
attribute list with the first text right below it, and an element of any other name to an ignored
node. Before that the root is taken off (`Unwraps`), if there is one: a single element that is
neither an entity nor an attribute list.

The names stand in these relations as they are written in a template, so that they can be held
against the reader of templates.

**Main statements**: the reader takes off the root (`unwraps_iff`) and converts what is left one by
one and in its order (`forall₂_converts_iff`), and there is no other way to do either.
-/

namespace EntityScript

namespace Template

/-! ### Roots -/

/-- The second trees are the first ones without their root: a single element is the root and leaves
its children, unless it is an entity or an attribute list; all other trees have no root. -/
inductive Unwraps : List Tree → List Tree → Prop
  | root {name : String} {children : List Tree} (hentity : name ≠ "entity")
    (hlist : name ≠ "attribute_list") : Unwraps [.element name children] children
  | bare {ts : List Tree} (h : ∀ name children, ts = [.element name children] →
      name = "entity" ∨ name = "attribute_list") : Unwraps ts ts

theorem isRootName_iff {name : String} :
    isRootName name = true ↔ name ≠ "entity" ∧ name ≠ "attribute_list" := by
  rw [isRootName, Bool.and_eq_true, bne_iff_ne, bne_iff_ne]
  rfl

/-- What the reader goes on with is what is left without the root. A single element decides by its
name; in all other cases no tree is the root. -/
theorem unwraps_unwrapRoot (ts : List Tree) : Unwraps ts (unwrapRoot ts) := by
  unfold unwrapRoot
  split
  next name children =>
    split
    next hroot =>
      obtain ⟨hentity, hlist⟩ := isRootName_iff.mp hroot
      exact .root hentity hlist
    next hroot =>
      refine .bare ?_
      rintro name' children' ⟨⟩
      rw [isRootName_iff, not_and_or] at hroot
      exact hroot.imp not_not.mp not_not.mp
  next hnot => exact .bare fun name children h => absurd h (hnot name children)

/-- **There is one way** to take off the root, and the reader takes it: the two cases exclude each
other, as a root has neither of the names that a single element may keep. -/
theorem unwraps_iff {ts us : List Tree} : Unwraps ts us ↔ us = unwrapRoot ts := by
  constructor
  · intro h
    cases h with
    | @root name children hentity hlist =>
      exact (if_pos (isRootName_iff.mpr ⟨hentity, hlist⟩)).symm
    | bare h =>
      unfold unwrapRoot
      split
      next name children =>
        -- A lone element that is left standing has one of the two names of the template's own
        -- elements.
        refine (if_neg fun hroot => ?_).symm
        obtain ⟨hentity, hlist⟩ := isRootName_iff.mp hroot
        exact (h name children rfl).elim hentity hlist
      next => rfl
  · rintro rfl
    exact unwraps_unwrapRoot ts

/-! ### Nodes -/

/-- The text is the first one right below the trees, whatever elements stand before it. -/
def IsFirstText (s : String) (ts : List Tree) : Prop :=
  ∃ before after, ts = before ++ .text s :: after ∧ ∀ u, .text u ∉ before

/-- The tree is converted to the node. -/
inductive Converts : Tree → Node → Prop
  | text (s : String) : Converts (.text s) (.literal s)
  | entity {children : List Tree} {ns : List Node} (h : List.Forall₂ Converts children ns) :
    Converts (.element "entity" children) (.entity ns)
  | fragment {children : List Tree} {s : String} (h : IsFirstText s children) :
    Converts (.element "attribute_list" children) (.attributeList (some s))
  | noFragment {children : List Tree} (h : ∀ s, .text s ∉ children) :
    Converts (.element "attribute_list" children) (.attributeList none)
  | container {children : List Tree} {ns : List Node} (h : List.Forall₂ Converts children ns) :
    Converts (.element "template" children) (.container ns)
  | ignored {name : String} (children : List Tree) (hentity : name ≠ "entity")
    (hlist : name ≠ "attribute_list") (htemplate : name ≠ "template") :
    Converts (.element name children) (.ignored name)

/-- The search for a text passes over elements only. What stands behind the text does not matter. -/
theorem firstText?_eq_some_iff {ts : List Tree} {s : String} :
    firstText? ts = some s ↔ IsFirstText s ts := by
  induction ts with
  | nil =>
    refine iff_of_false nofun ?_
    rintro ⟨before, after, h, -⟩
    cases before <;> cases h
  | cons t ts ih =>
    cases t with
    | text u =>
      constructor
      · rintro ⟨⟩
        exact ⟨[], ts, rfl, fun _ => List.not_mem_nil⟩
      · -- A text before the first one would be among those that are not texts.
        rintro ⟨_ | ⟨t, before⟩, after, h, hbefore⟩
        · cases h
          rfl
        · cases h
          exact absurd List.mem_cons_self (hbefore u)
    | element name children =>
      refine ih.trans ?_
      constructor
      · rintro ⟨before, after, rfl, hbefore⟩
        refine ⟨.element name children :: before, after, rfl, fun u hu => ?_⟩
        exact hbefore u ((List.mem_cons.mp hu).resolve_left nofun)
      · rintro ⟨_ | ⟨t, before⟩, after, h, hbefore⟩
        · cases h
        · cases h
          exact ⟨before, after, rfl, fun u hu => hbefore u (List.mem_cons_of_mem _ hu)⟩

/-- The search fails if there are elements only, whatever texts stand inside of them. -/
theorem firstText?_eq_none_iff {ts : List Tree} :
    firstText? ts = none ↔ ∀ s, .text s ∉ ts := by
  rw [firstText?, List.findSome?_eq_none_iff]
  constructor
  · intro h s hs
    cases h _ hs
  · intro h t ht
    cases t with
    | text s => exact absurd ht (h s)
    | element name children => rfl

mutual

/-- Every tree is converted to the node that the reader makes of it. The cases are those of the
reader, which compares the name with one keyword after the other. -/
theorem converts_node : ∀ t : Tree, Converts t t.node
  | .text s => .text s
  | .element name children => by
    rw [Tree.node]
    split
    next hname =>
      obtain rfl : name = "entity" := hname
      exact .entity (forall₂_converts_nodes children)
    next hentity =>
      split
      next hname =>
        obtain rfl : name = "attribute_list" := hname
        cases htext : firstText? children with
        | none => exact .noFragment (firstText?_eq_none_iff.mp htext)
        | some s => exact .fragment (firstText?_eq_some_iff.mp htext)
      next hlist =>
        split
        next hname =>
          obtain rfl : name = "template" := hname
          exact .container (forall₂_converts_nodes children)
        next htemplate => exact .ignored children hentity hlist htemplate

/-- Trees are converted to the nodes that the reader makes of them: none is lost, and they keep
their order. -/
theorem forall₂_converts_nodes : ∀ ts : List Tree, List.Forall₂ Converts ts (Tree.nodes ts)
  | [] => .nil
  | t :: ts => .cons (converts_node t) (forall₂_converts_nodes ts)

end

mutual

/-- A tree is converted to nothing else: each case has a name or a fragment of its own. -/
theorem eq_node_of_converts : ∀ (t : Tree) {n : Node}, Converts t n → n = t.node
  | .text s, _, h => by
    cases h
    rfl
  | .element name children, n, h => by
    cases h with
    | entity h =>
      rw [eq_nodes_of_forall₂_converts children h]
      rfl
    | fragment h =>
      rw [← firstText?_eq_some_iff.mpr h]
      rfl
    | noFragment h =>
      rw [← firstText?_eq_none_iff.mpr h]
      rfl
    | container h =>
      rw [eq_nodes_of_forall₂_converts children h]
      rfl
    | ignored _ hentity hlist htemplate =>
      exact ((if_neg hentity).trans ((if_neg hlist).trans (if_neg htemplate))).symm

/-- Trees are converted to no other nodes. The two lists are divided in the same way. -/
theorem eq_nodes_of_forall₂_converts : ∀ (ts : List Tree) {ns : List Node},
    List.Forall₂ Converts ts ns → ns = Tree.nodes ts
  | [], _, h => by
    cases h
    rfl
  | t :: ts, _, h => by
    cases h with
    | cons ht hts =>
      rw [Tree.nodes, ← eq_node_of_converts t ht, ← eq_nodes_of_forall₂_converts ts hts]

end

/-- **The nodes of a template** are what its trees are converted to, one by one and in their order,
and there is no other way to convert them. -/
theorem forall₂_converts_iff {ts : List Tree} {ns : List Node} :
    List.Forall₂ Converts ts ns ↔ ns = Tree.nodes ts := by
  refine ⟨eq_nodes_of_forall₂_converts ts, ?_⟩
  rintro rfl
  exact forall₂_converts_nodes ts

end Template

end EntityScript
