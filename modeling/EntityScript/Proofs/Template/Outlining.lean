import EntityScript.Template.Outline
import Mathlib.Data.List.Infix

/-!
# Outlines as listings

A node of a template has a position: the numbers of its ancestors among their siblings, and its own.
The nodes with their positions are listed in the order of the text (`Document.listing`), which is
that of the positions as words: a node comes before those below it, and these come before its next
sibling (`Document.pairwise_listing`). Every node is listed (`Document.mem_listing_iff`).

The lines of a node are spelled out here (`Node.lines`): two blanks for every node above it and what
kind of node it is, and under it its slugs, each as it is written and with what it asks for.

**Main statement**: the outline of a template has, in the order of its listing, the lines of each
node, as deep as the length of its position tells (`Document.outline_eq`).
-/

namespace EntityScript

namespace Template

/-! ### Positions -/

namespace Node

/-- The nodes right below a node. -/
def children : Node → List Node
  | entity children | container children => children
  | literal _ | attributeList _ | ignored _ => []

/-- The text that a node expands. -/
def text? : Node → Option String
  | literal text => some text
  | attributeList fragment => fragment
  | entity _ | container _ | ignored _ => none

/-- The node at a position below a node, which is itself at the empty one. -/
def at? (n : Node) : List Nat → Option Node
  | [] => some n
  | i :: p => n.children[i]?.bind (·.at? p)

/-- The node at a position among nodes and those below them. -/
def nodeAt? (ns : List Node) : List Nat → Option Node
  | [] => none
  | i :: p => ns[i]?.bind (·.at? p)

mutual

/-- The nodes below a node with their positions. -/
def listing : Node → List (List Nat × Node)
  | entity children | container children => listingFrom 0 children
  | literal _ | attributeList _ | ignored _ => []

/-- Nodes, of which the first has the number `i`, and the nodes below them with their positions. -/
def listingFrom (i : Nat) : List Node → List (List Nat × Node)
  | [] => []
  | n :: ns => ([i], n) :: n.listing.map (Prod.map (List.cons i) id) ++ listingFrom (i + 1) ns

end

/-- The slugs under a node. -/
def slugs (n : Node) : List Slug :=
  (n.text?.map scan).getD []

/-- What a node is called in an outline: as its element, or as data if it is a text. -/
def heading : Node → String
  | literal _ => "#cdata-section"
  | entity _ => "entity"
  | attributeList _ => "attribute_list"
  | container _ => "template"
  | ignored name => name

end Node

namespace Slug

/-- The record that a slug reads from, in a word. -/
def scopeWord (g : Slug) : String :=
  match g.scope with
  | .ent => "entity"
  | .attr => "attribute"

/-- The modifier of a slug, in a word. -/
def modifierWord (g : Slug) : String :=
  match g.modifier with
  | .identity => "none"
  | .upper => "upper"
  | .lower => "lower"
  | .title => "title"
  | .dataType => "dt"
  | .webApi => "api"

end Slug

/-- As many blanks. -/
def blanks (count : Nat) : String :=
  String.ofList (List.replicate count ' ')

namespace Node

/-- The lines of a node by itself: its heading behind two blanks for every level, and its slugs one
level deeper, each as it is written, with its record, its property and its modifier. -/
def lines (depth : Nat) (n : Node) : List String :=
  (blanks (2 * depth) ++ n.heading ++ "\n") :: n.slugs.map fun g =>
    blanks (2 * (depth + 1)) ++ g.raw ++ " -> " ++ g.scopeWord ++ " " ++ g.property ++ " [" ++
      g.modifierWord ++ "]\n"

/-! ### Every node is listed -/

/-- A node at a position below another one is that node itself, or stands below its children. The
empty position is that of the node itself. -/
theorem at?_eq_some_iff {n m : Node} {p : List Nat} :
    n.at? p = some m ↔ (p = [] ∧ m = n) ∨ nodeAt? n.children p = some m := by
  cases p with
  | nil => simp [at?, nodeAt?, eq_comm]
  | cons i p => simp [at?, nodeAt?]

/-- A position among nodes begins with the number of one of them. There is no node at the empty
position, as a template is a list of nodes. -/
theorem exists_nodeAt?_cons_iff {ns : List Node} {p : List Nat} {m : Node} :
    (∃ i q, p = (0 + i) :: q ∧ nodeAt? ns (i :: q) = some m) ↔ nodeAt? ns p = some m := by
  cases p with
  | nil => simp [nodeAt?]
  | cons i p => simp

mutual

/-- The nodes listed below a node are those at positions below it. The two lemmas are proved
together, along the nodes. -/
theorem mem_listing_iff {p : List Nat} {m : Node} : ∀ n : Node,
    (p, m) ∈ n.listing ↔ nodeAt? n.children p = some m
  | entity ns | container ns => (mem_listingFrom_iff ns).trans exists_nodeAt?_cons_iff
  | literal _ | attributeList _ | ignored _ => by
    refine iff_of_false List.not_mem_nil ?_
    cases p <;> simp [children, nodeAt?]

/-- The nodes listed from a number on are those at the positions that are counted from it. Counting
begins at zero below a node and at the top. -/
theorem mem_listingFrom_iff {k : Nat} {p : List Nat} {m : Node} : ∀ ns : List Node,
    (p, m) ∈ listingFrom k ns ↔ ∃ i q, p = (k + i) :: q ∧ nodeAt? ns (i :: q) = some m
  | [] => by simp [listingFrom, nodeAt?]
  | n :: ns => by
    rw [listingFrom, List.cons_append, List.mem_cons, List.mem_append, mem_listingFrom_iff ns]
    simp only [List.mem_map, Prod.exists, mem_listing_iff n, Prod.map_apply, id_eq, Prod.mk.injEq]
    constructor
    · rintro (⟨rfl, rfl⟩ | ⟨q, m, hm, rfl, rfl⟩ | ⟨i, q, rfl, hm⟩)
      · exact ⟨0, [], rfl, rfl⟩
      · exact ⟨0, q, rfl, at?_eq_some_iff.mpr (.inr hm)⟩
      · exact ⟨i + 1, q, by rw [Nat.add_assoc, Nat.add_comm 1], hm⟩
    · rintro ⟨i, q, rfl, hm⟩
      cases i with
      | zero =>
        obtain ⟨rfl, rfl⟩ | hm := at?_eq_some_iff.mp hm
        · exact .inl ⟨rfl, rfl⟩
        · exact .inr (.inl ⟨q, m, hm, rfl, rfl⟩)
      | succ i => exact .inr (.inr ⟨i, q, by rw [Nat.add_assoc, Nat.add_comm 1], hm⟩)

end

/-- What is listed below a node has a position of its own. -/
theorem ne_nil_of_mem_listing {n : Node} {item : List Nat × Node} (h : item ∈ n.listing) :
    item.1 ≠ [] := by
  obtain ⟨p, m⟩ := item
  rintro ⟨⟩
  cases (mem_listing_iff n).mp h

theorem exists_cons_of_mem_listingFrom {k : Nat} {ns : List Node} {m : Node} {p : List Nat}
    (h : (p, m) ∈ listingFrom k ns) : ∃ i q, p = i :: q ∧ k ≤ i := by
  obtain ⟨i, q, rfl, -⟩ := (mem_listingFrom_iff ns).mp h
  exact ⟨k + i, q, rfl, Nat.le_add_right k i⟩

/-! ### The order of the listing -/

mutual

/-- A listing goes through its positions in their order as words. The induction is on the node,
whose children are numbered from zero. -/
theorem pairwise_listing : ∀ n : Node, (n.listing.map Prod.fst).Pairwise (· < ·)
  | entity ns | container ns => pairwise_listingFrom 0 ns
  | literal _ | attributeList _ | ignored _ => .nil

/-- Positions below one node come before those below the next, as their first numbers are
smaller. -/
theorem pairwise_listingFrom (k : Nat) : ∀ ns : List Node,
    ((listingFrom k ns).map Prod.fst).Pairwise (· < ·)
  | [] => .nil
  | n :: ns => by
    have hbelow : ((n.listing.map (Prod.map (List.cons k) id)).map Prod.fst) =
        (n.listing.map Prod.fst).map (List.cons k) := by
      rw [List.map_map, List.map_map]
      rfl
    have hafter : ∀ q ∈ (listingFrom (k + 1) ns).map Prod.fst, ∃ i p, q = i :: p ∧ k < i := by
      simp only [List.mem_map, Prod.exists]
      rintro _ ⟨q, m, hq, rfl⟩
      exact exists_cons_of_mem_listingFrom hq
    rw [listingFrom, List.cons_append, List.map_cons, List.map_append, hbelow, List.pairwise_cons,
      List.pairwise_append, List.pairwise_map]
    refine ⟨fun q hq => ?_, ?_, pairwise_listingFrom (k + 1) ns, fun q hq q' hq' => ?_⟩
    · -- A node comes before those below it, and before its siblings.
      rcases List.mem_append.mp hq with hq | hq
      · rw [List.map_map] at hq
        obtain ⟨item, hitem, rfl⟩ := List.mem_map.mp hq
        obtain ⟨i, p, hp⟩ := List.exists_cons_of_ne_nil (ne_nil_of_mem_listing hitem)
        rw [Function.comp_apply, hp]
        exact List.cons_lt_cons_iff.mpr (.inr ⟨rfl, List.nil_lt_cons i p⟩)
      · obtain ⟨i, p, rfl, hi⟩ := hafter q hq
        exact List.cons_lt_cons_iff.mpr (.inl hi)
    · exact (pairwise_listing n).imp fun h => List.cons_lt_cons_iff.mpr (.inr ⟨rfl, h⟩)
    · obtain ⟨p, -, rfl⟩ := List.mem_map.mp hq
      obtain ⟨i, p', rfl, hi⟩ := hafter q' hq'
      exact List.cons_lt_cons_iff.mpr (.inl hi)

end

/-! ### Lines -/

/-- A node is called by its name, which for a text tells that it is data. -/
theorem name_eq_heading (n : Node) : n.name = n.heading := by
  cases n <;> rfl

/-- The line that an outline has for a slug, spelled out: the slug as it is written, an arrow, and
what it asks for. -/
theorem slugOutline_eq (depth : Nat) (g : Slug) : g.outline depth =
    blanks (2 * depth) ++ g.raw ++ " -> " ++ g.scopeWord ++ " " ++ g.property ++ " [" ++
      g.modifierWord ++ "]\n" := by
  have hscope : g.scope.name = g.scopeWord := by
    rw [Slug.scopeWord]
    cases g.scope <;> rfl
  have hmodifier : (if g.modifier = .identity then "none" else g.modifier.keyword) =
      g.modifierWord := by
    rw [Slug.modifierWord]
    cases g.modifier <;> rfl
  rw [Slug.outline, hscope, hmodifier]
  rfl

theorem lines_eq (depth : Nat) (n : Node) : n.lines depth =
    (indentation depth ++ n.name ++ "\n") :: n.slugs.map (Slug.outline (depth + 1)) := by
  rw [lines, name_eq_heading, funext (slugOutline_eq (depth + 1))]
  rfl

theorem join_lines_append (depth : Nat) (n : Node) (rest : List String) :
    String.join (n.lines depth ++ rest) = indentation depth ++ n.name ++ "\n" ++
      (String.join (n.slugs.map (Slug.outline (depth + 1))) ++ String.join rest) := by
  rw [lines_eq, List.cons_append, String.join_cons, String.join_append]

/-- In an outline the slugs of a node stand before its children. One of the two is always empty. -/
theorem outline_eq_append_outlines (depth : Nat) (n : Node) :
    n.outline depth = indentation depth ++ n.name ++ "\n" ++
      (String.join (n.slugs.map (Slug.outline (depth + 1))) ++
        Node.outlines (depth + 1) n.children) := by
  cases n with
  | entity ns | container ns => exact congrArg (HAppend.hAppend _) String.empty_append.symm
  | literal text => exact congrArg (HAppend.hAppend _) String.append_empty.symm
  | attributeList fragment =>
    cases fragment with
    | none => rfl
    | some fragment => exact congrArg (HAppend.hAppend _) String.append_empty.symm
  | ignored name => rfl

theorem flatMap_lines_listing (depth : Nat) (n : Node) :
    (n.listing.flatMap fun item => item.2.lines (depth + 1 + (item.1.length - 1))) =
      n.listing.flatMap fun item => item.2.lines (depth + item.1.length) := by
  refine List.flatMap_congr fun item hitem => ?_
  have hpos := List.length_pos_iff.mpr (ne_nil_of_mem_listing hitem)
  rw [Nat.add_assoc, Nat.add_sub_cancel' hpos]

mutual

/-- The outline of a node has its own lines, and those of the nodes listed below it. The nodes below
it are deeper by the length of their positions. -/
theorem outline_eq (depth : Nat) : ∀ n : Node, n.outline depth =
    String.join (n.lines depth ++
      n.listing.flatMap fun item => item.2.lines (depth + item.1.length))
  | entity ns | container ns => by
    rw [outline_eq_append_outlines, join_lines_append, ← flatMap_lines_listing, children,
      outlines_eq (depth + 1) 0 ns]
    rfl
  | literal _ | attributeList _ | ignored _ => by
    rw [outline_eq_append_outlines, join_lines_append]
    rfl

/-- The outline of nodes has the lines of all that are listed, whichever number is the first. -/
theorem outlines_eq (depth k : Nat) : ∀ ns : List Node, Node.outlines depth ns =
    String.join ((listingFrom k ns).flatMap fun item => item.2.lines (depth + (item.1.length - 1)))
  | [] => by rfl
  | n :: ns => by
    rw [Node.outlines, outline_eq depth n, outlines_eq depth (k + 1) ns, ← String.join_append,
      listingFrom, List.flatMap_append, List.flatMap_cons, List.flatMap_map]
    rfl

end

end Node

/-! ### Templates -/

namespace Document

/-- The nodes of a template with their positions, in the order of the text. -/
def listing (d : Document) : List (List Nat × Node) :=
  Node.listingFrom 0 d.nodes

variable {d : Document} {p : List Nat} {n : Node}

/-- **Every node is listed**, once and with its position. So no node is left out of an outline. -/
theorem mem_listing_iff : (p, n) ∈ d.listing ↔ Node.nodeAt? d.nodes p = some n :=
  (Node.mem_listingFrom_iff d.nodes).trans Node.exists_nodeAt?_cons_iff

theorem pairwise_listing (d : Document) : (d.listing.map Prod.fst).Pairwise (· < ·) :=
  Node.pairwise_listingFrom 0 d.nodes

/-- **The outline of a template** has the lines of its nodes as they are listed, each with two
columns of blanks for every node that it stands below. -/
theorem outline_eq (d : Document) :
    d.outline = String.join (d.listing.flatMap fun item => item.2.lines (item.1.length - 1)) := by
  rw [outline, Node.outlines_eq 0 0 d.nodes]
  simp only [listing, Nat.zero_add]

end Document

end Template

end EntityScript
