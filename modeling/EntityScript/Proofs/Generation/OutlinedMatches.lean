import EntityScript.Proofs.Generation.Substitutions
import EntityScript.Proofs.Template.Outlining
import EntityScript.Proofs.Text.Replacement

/-!
# Outlines and runs

The outline of a template is made without records, but it shows every slug that a run can replace:
the text that a visit of a run expands stands at a position of the template, below an entity node if
there is a record to read from (`Template.Node.exists_nodeAt?_of_mem_visitsOfAll`). The slugs of the
text are those of the outline as long as it holds no slug of the project, as those are replaced
before the text is searched, and what is put in for them may bring slugs along.

**Main statement**: what an outline shows, and that the slugs of all messages are among it
(`Template.Document.outline_shows_matches`).
-/

namespace EntityScript

open Metadata (Entity)

namespace Template

open Generation

/-! ### Positions of visits -/

namespace Node

/-- An entity node stands above the position. -/
def IsBelowEntity (ns : List Node) (p : List Nat) : Prop :=
  ∃ q children, q <+: p ∧ q ≠ p ∧ nodeAt? ns q = some (entity children)

/-- The text is that of a node, below an entity node unless there is an entity from outside. -/
def HasText (ns : List Node) (outer : Bool) (text : String) : Prop :=
  ∃ p n, nodeAt? ns p = some n ∧ n.text? = some text ∧ (outer = true ∨ IsBelowEntity ns p)

variable {n : Node} {ns : List Node} {p : List Nat} {text : String} {outer : Bool}

theorem IsBelowEntity.of_entity (ns children : List Node) (hp : p ≠ []) :
    IsBelowEntity (entity children :: ns) (0 :: p) :=
  ⟨[0], children, ⟨p, rfl⟩, fun h => hp (List.cons.inj h).2.symm, rfl⟩

/-- What is below an entity node among the children of a node is so below that node. The position
gets the number of that node in front. -/
theorem IsBelowEntity.of_children (ns : List Node) (h : IsBelowEntity n.children p) :
    IsBelowEntity (n :: ns) (0 :: p) := by
  obtain ⟨q, children, hq, hne, hentity⟩ := h
  exact ⟨0 :: q, children, List.cons_prefix_cons.mpr ⟨rfl, hq⟩, fun h => hne (List.cons.inj h).2,
    at?_eq_some_iff.mpr (.inr hentity)⟩

/-- Further nodes in front move the first index of a position and nothing else. -/
theorem IsBelowEntity.cons {i : Nat} (n : Node) (h : IsBelowEntity ns (i :: p)) :
    IsBelowEntity (n :: ns) ((i + 1) :: p) := by
  obtain ⟨_ | ⟨j, q⟩, children, hq, hne, hentity⟩ := h
  · cases hentity
  · obtain ⟨rfl, hqp⟩ := List.cons_prefix_cons.mp hq
    refine ⟨(j + 1) :: q, children, List.cons_prefix_cons.mpr ⟨rfl, hqp⟩, ?_, hentity⟩
    rintro ⟨⟩
    exact hne rfl

namespace HasText

theorem of_text? (ns : List Node) (h : n.text? = some text) : HasText (n :: ns) true text :=
  ⟨[0], n, rfl, h, .inl rfl⟩

/-- Below an entity node the texts have an entity, whatever there is outside. This is the one place
where the current entity is set. -/
theorem of_entity {children : List Node} (ns : List Node) (outer : Bool)
    (h : HasText children true text) : HasText (entity children :: ns) outer text := by
  obtain ⟨p, n, hn, htext, -⟩ := h
  refine ⟨0 :: p, n, at?_eq_some_iff.mpr (.inr hn), htext, .inr (.of_entity ns children ?_)⟩
  rintro rfl
  cases hn

theorem of_children (ns : List Node) (h : HasText n.children outer text) :
    HasText (n :: ns) outer text := by
  obtain ⟨p, m, hm, htext, hbelow⟩ := h
  exact ⟨0 :: p, m, at?_eq_some_iff.mpr (.inr hm), htext, hbelow.imp_right (.of_children ns)⟩

/-- The texts of a list are not lost by nodes in front of it. Only their positions change. -/
theorem cons (n : Node) (h : HasText ns outer text) : HasText (n :: ns) outer text := by
  obtain ⟨_ | ⟨i, p⟩, m, hm, htext, hbelow⟩ := h
  · cases hm
  · exact ⟨(i + 1) :: p, m, hm, htext, hbelow.imp_right (.cons n)⟩

end HasText

/-- **What a run expands stands in the template**: below an entity node, if there is a record that
its slugs may read from. The recursion is that of the visits over the nodes; it sets the current
entity below an entity node and nowhere else. -/
theorem hasText_of_mem_visitsOfAll (job : Job) {piece : Piece}
    (hrecord : piece.currentEntity.isSome ∨ piece.currentAttribute.isSome) :
    ∀ (ns : List Node) (current : Option Entity), .text piece ∈ visitsOfAll job current ns →
      HasText ns current.isSome piece.text
  | [], _, h => by cases h
  | n :: ns, current, h => by
    rcases List.mem_append.mp h with h | h
    · cases n with
      | literal text =>
        cases List.mem_singleton.mp h
        -- The piece of a literal carries no attribute, so what it carries is the current entity.
        obtain hcurrent : current.isSome = true := by simpa using hrecord
        rw [hcurrent]
        exact .of_text? ns rfl
      | entity children =>
        rw [Node.visits] at h
        split at h
        · obtain ⟨e, -, ⟨⟩⟩ := List.mem_map.mp h
        · obtain ⟨e, -, h⟩ := List.mem_flatMap.mp h
          obtain ⟨⟨⟩⟩ | h := List.mem_cons.mp h
          exact .of_entity ns _ (hasText_of_mem_visitsOfAll job hrecord children (some e) h)
      | attributeList fragment =>
        obtain ⟨piece, hpiece, ⟨⟩⟩ := List.mem_map.mp h
        cases current with
        | none => cases hpiece
        | some e =>
          cases fragment with
          | none => cases hpiece
          | some fragment =>
            obtain ⟨a, -, rfl⟩ := List.mem_map.mp hpiece
            exact .of_text? ns rfl
      | container children =>
        exact .of_children ns (hasText_of_mem_visitsOfAll job hrecord children current h)
      | ignored name => cases h
    · exact (hasText_of_mem_visitsOfAll job hrecord ns current h).cons n

end Node

namespace Document

/-- No text of the template holds a slug of the project. -/
def IsFreeOfProjectSlugs (d : Document) : Prop :=
  ∀ p n text, Node.nodeAt? d.nodes p = some n → n.text? = some text →
    ¬ moduleNameSlug.toList <:+: text.toList ∧ ¬ moduleNotesSlug.toList <:+: text.toList

end Document

end Template

namespace Generation

open Template (Slug scan)

/-! ### Messages of slugs -/

namespace Piece

variable {c : Config} {p : Piece} {g : Slug} {inserted : String}

theorem projectText_eq (hname : ¬ moduleNameSlug.toList <:+: p.text.toList)
    (hnotes : ¬ moduleNotesSlug.toList <:+: p.text.toList) : p.projectText c = p.text := by
  rw [projectText, replaceProjectSlugs, Text.replace_eq_self hname, Text.replace_eq_self hnotes,
    String.ofList_toList]

/-- A slug that is replaced stands in the text, and has a record to read from. Both are seen from
the list of substitutions alone. -/
theorem of_mem_substitutions (h : (g, inserted) ∈ p.substitutions c) :
    g ∈ scan (p.projectText c) ∧
      (p.currentEntity.isSome ∨ p.currentAttribute.isSome) := by
  rw [substitutions, edits, List.mem_filterMap] at h
  obtain ⟨g', hg', hinserted⟩ := h
  obtain ⟨_, hjoin, ⟨⟩⟩ := Option.map_eq_some_iff.mp hinserted
  refine ⟨(List.takeWhile_sublist _).subset hg', ?_⟩
  rw [insertion?] at hjoin
  split at hjoin
  · cases he : p.currentEntity with
    | none => rw [he] at hjoin; cases hjoin
    | some e => exact .inl rfl
  · cases ha : p.currentAttribute with
    | none => rw [ha] at hjoin; cases hjoin
    | some a => exact .inr rfl

end Piece

/-- The visits that a run comes to are among all, so what holds of all visits holds of a run that
fails as well. -/
theorem reached_subset (c : Config) (vs : List Visit) : reached c vs ⊆ vs := by
  induction vs with
  | nil => exact List.Subset.refl []
  | cons v vs ih =>
    rw [reached]
    split
    · exact List.cons_subset_cons v (List.nil_subset vs)
    · exact List.cons_subset_cons v ih

/-- What starts as the message for a slug is one. The messages on the level `verbose` are of two
kinds, and those for properties start otherwise. -/
theorem Visit.exists_of_mem_messages {c : Config} {v : Visit} {m : String}
    (hm : m ∈ v.messages c) (hstart : "Match: ".toList <+: m.toList) :
    ∃ p g inserted, v = .text p ∧ (g, inserted) ∈ p.substitutions c ∧
      m = "Match: " ++ g.raw ++ ", Property Name: " ++ g.property ++ ", Property Value: " ++
        inserted := by
  cases v with
  | entry e =>
    -- The messages for properties start otherwise.
    obtain ⟨property, -, rfl⟩ := List.mem_map.mp hm
    rw [String.toList_append, String.toList_append, String.toList_append] at hstart
    exact absurd (List.cons_prefix_cons.mp hstart).1 (by decide)
  | text p =>
    obtain ⟨⟨g, inserted⟩, hmem, rfl⟩ := List.mem_map.mp hm
    exact ⟨p, g, inserted, rfl, hmem, rfl⟩
  | halt e => cases hm

end Generation

namespace Template

open Generation

namespace Document

/-- **The outline of a template shows what its runs can resolve.** It has the lines of every node,
in the order of the nodes in the text, each with two columns of blanks for every node above it, and
under a node the lines of the slugs of its text, one level deeper. Where no text holds a slug of the
project, the slug of every message on the replacement of one is a slug of a text below an entity
node, and so it has a line in the outline, with its property. That holds of any configuration and
any records, and whether the run succeeds or not. -/
theorem outline_shows_matches (d : Document) :
    (∀ p n, (p, n) ∈ d.listing ↔ Node.nodeAt? d.nodes p = some n) ∧
    (d.listing.map Prod.fst).Pairwise (· < ·) ∧
    d.outline = String.join (d.listing.flatMap fun item => item.2.lines (item.1.length - 1)) ∧
    (d.IsFreeOfProjectSlugs → ∀ (g : Generator) (es : List Entity),
      let messages := (Generator.running (g.job es) d).messages .verbose
      (g.config.loggingLevel = .verbose → (g.generateWith d es).1.log.text =
        String.join (messages.map fun m => "Verbose: " ++ m ++ "\n")) ∧
      ∀ m ∈ messages, "Match: ".toList <+: m.toList →
        ∃ p n slug inserted, Node.nodeAt? d.nodes p = some n ∧ Node.IsBelowEntity d.nodes p ∧
          blanks (2 * p.length) ++ slug.raw ++ " -> " ++ slug.scopeWord ++ " " ++ slug.property ++
            " [" ++ slug.modifierWord ++ "]\n" ∈ n.lines (p.length - 1) ∧
          slug ∈ n.slugs ∧ m = "Match: " ++ slug.raw ++ ", Property Name: " ++ slug.property ++
            ", Property Value: " ++ inserted) := by
  refine ⟨fun p n => mem_listing_iff, d.pairwise_listing, d.outline_eq, fun hfree g es => ?_⟩
  refine ⟨fun hlevel => Generator.text_log_runFresh hlevel (by decide) _, fun m hm hstart => ?_⟩
  rw [(Generator.tells_running (g.job es) d).messages_eq] at hm
  obtain ⟨v, hv, hm⟩ := List.mem_flatMap.mp hm
  obtain ⟨piece, slug, inserted, rfl, hslug, rfl⟩ := Visit.exists_of_mem_messages hm hstart
  obtain ⟨hscan, hrecord⟩ := Piece.of_mem_substitutions hslug
  obtain ⟨p, n, hn, htext, houter | hbelow⟩ :=
    Node.hasText_of_mem_visitsOfAll (g.job es) hrecord d.nodes none (reached_subset _ _ hv)
  · -- A text outside the entities is visited without a record, and then nothing is matched in it.
    cases houter
  · obtain ⟨hname, hnotes⟩ := hfree p n piece.text hn htext
    rw [Piece.projectText_eq hname hnotes] at hscan
    have hslugs : slug ∈ n.slugs := by
      rw [Node.slugs, htext]
      exact hscan
    obtain ⟨i, p, rfl⟩ := List.exists_cons_of_ne_nil (l := p) (by rintro rfl; cases hn)
    have hline : blanks (2 * (i :: p).length) ++ slug.raw ++ " -> " ++ slug.scopeWord ++ " " ++
        slug.property ++ " [" ++ slug.modifierWord ++ "]\n" ∈ n.lines p.length :=
      List.mem_cons_of_mem _ (List.mem_map.mpr ⟨slug, hslugs, rfl⟩)
    exact ⟨i :: p, n, slug, inserted, hn, hbelow, hline, hslugs, rfl⟩

/-- An attribute list in a container below an entity node: the lines of its outline, and the line of
the slug that a message is on. -/
theorem outline_shows_matches_of_fragment :
    let fragment := "\x7b#ent (logicalname)#\x7d.\x7b#attr upper(SchemaName)#\x7d"
    let d : Document := ⟨[.literal "a", .entity
      [.container [.attributeList (some fragment), .ignored "notes"]]]⟩
    let es : List Entity := [{ logicalName := "a", attributes := [{ schemaName := "b" }] }]
    let m := "Match: \x7b#attr upper(SchemaName)#\x7d, Property Name: schemaname, Property Value: B"
    d.outline = String.join ["#cdata-section\n",
      "entity\n",
      "  template\n",
      "    attribute_list\n",
      "      \x7b#ent (logicalname)#\x7d -> entity logicalname [none]\n",
      "      \x7b#attr upper(SchemaName)#\x7d -> attribute schemaname [upper]\n",
      "    notes\n"] ∧
    d.IsFreeOfProjectSlugs ∧
      m ∈ (Generator.running ((Generator.new {}).job es) d).messages .verbose ∧
      ∃ p n slug inserted, Node.nodeAt? d.nodes p = some n ∧ Node.IsBelowEntity d.nodes p ∧
        blanks (2 * p.length) ++ slug.raw ++ " -> " ++ slug.scopeWord ++ " " ++ slug.property ++
          " [" ++ slug.modifierWord ++ "]\n" ∈ n.lines (p.length - 1) ∧
        slug ∈ n.slugs ∧ m = "Match: " ++ slug.raw ++ ", Property Name: " ++ slug.property ++
          ", Property Value: " ++ inserted := by
  intro fragment d es m
  have hfree : d.IsFreeOfProjectSlugs := by
    intro p n text hn htext
    have hlisting : d.listing = [([0], .literal "a"),
      ([1], .entity [.container [.attributeList (some fragment), .ignored "notes"]]),
      ([1, 0], .container [.attributeList (some fragment), .ignored "notes"]),
      ([1, 0, 0], .attributeList (some fragment)), ([1, 0, 1], .ignored "notes")] := rfl
    rw [← mem_listing_iff, hlisting] at hn
    have htexts : text = "a" ∨ text = fragment := by
      simp only [List.mem_cons, Prod.mk.injEq, List.not_mem_nil, or_false] at hn
      obtain ⟨-, rfl⟩ | ⟨-, rfl⟩ | ⟨-, rfl⟩ | ⟨-, rfl⟩ | ⟨-, rfl⟩ := hn <;> cases htext
      · exact .inl rfl
      · exact .inr rfl
    obtain rfl | rfl := htexts <;> decide +kernel
  have hm : m ∈ (Generator.running ((Generator.new {}).job es) d).messages .verbose := by
    decide +kernel
  obtain ⟨-, -, houtline, hmatches⟩ := outline_shows_matches d
  refine ⟨houtline.trans (by decide +kernel), hfree, hm, ?_⟩
  exact (hmatches hfree (Generator.new {}) es).2 m hm (by decide +kernel)

end Document

end Template

end EntityScript
