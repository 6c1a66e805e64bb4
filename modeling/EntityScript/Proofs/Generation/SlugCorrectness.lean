import EntityScript.Proofs.Generation.Reading
import EntityScript.Proofs.Template.Scanning

/-!
# Slug correctness

Whether the slugs of a template can be replaced is settled by the template and the tables of
properties. `Node.innerTexts` lists the texts that stand below an entity node, and a template is
slug correct (`Document.SlugCorrect`) when the slugs of each of these texts, once the project's are
replaced, name properties in the tables of the records that they read from.

A piece with a current entity comes from one of these texts (`Node.isPieceOf_innerTexts`),
and each of the texts gives a piece as soon as one entity with one attribute is kept
(`Node.pieceFor_mem_pieces`). What a record holds plays no part: its properties have the names of
the table whatever their values (`propertyText?_eq_none_iff`).

**Main statement**: a template that is slug correct never fails, and one that is not fails for all
records among which an included entity has an included attribute
(`Generator.generateWith_slugCorrect`).
-/

namespace EntityScript

/-- The names in the table of a type of records. -/
def Metadata.propertyNames (ρ : Type) [Metadata.HasProperties ρ] : List String :=
  (Metadata.HasProperties.table (ρ := ρ)).map (·.name)

open Metadata (Attribute Entity HasProperties propertyNames)
open Generation
open Template (Document Node Passage Spelling passages scan)

namespace Template

/-! ### The texts below entity nodes -/

/-- A text of a template that is expanded for an entity. -/
structure InnerText where
  text : String
  /-- The text is the fragment of an attribute list. -/
  isFragment : Bool

mutual

/-- The texts of a node that stand below an entity node, perhaps one outside of the node. -/
def Node.innerTexts (inside : Bool) : Node → List InnerText
  | .literal text => if inside then [⟨text, false⟩] else []
  | .entity children => Node.innerTextsOfAll true children
  | .attributeList fragment => if inside then fragment.toList.map (⟨·, true⟩) else []
  | .container children => Node.innerTextsOfAll inside children
  | .ignored _ => []

/-- The texts of nodes that stand below an entity node. -/
def Node.innerTextsOfAll (inside : Bool) : List Node → List InnerText
  | [] => []
  | n :: ns => n.innerTexts inside ++ Node.innerTextsOfAll inside ns

end

namespace InnerText

/-- The slug names a property of the record that it reads from in the text. -/
def Allows (t : InnerText) (w : Spelling) : Prop :=
  match w.scope with
  | .ent => w.property ∈ propertyNames Entity
  | .attr => t.isFragment = true → w.property ∈ propertyNames Attribute

instance (t : InnerText) (w : Spelling) : Decidable (t.Allows w) :=
  match h : w.scope with
  | .ent => decidable_of_iff (w.property ∈ propertyNames Entity) (by simp only [Allows, h])
  | .attr =>
    decidable_of_iff (t.isFragment = true → w.property ∈ propertyNames Attribute)
      (by simp only [Allows, h])

/-- Every slug of the text is allowed after the project's slugs are replaced. -/
def IsCorrect (c : Config) (t : InnerText) : Prop :=
  ∀ g ∈ scan (String.ofList (replaceProjectSlugs c t.text.toList)), t.Allows g.spelling

instance (c : Config) (t : InnerText) : Decidable (t.IsCorrect c) :=
  inferInstanceAs (Decidable (∀ g ∈ scan _, t.Allows g.spelling))

end InnerText

/-- Every slug below an entity node names a property in the table of its scope. -/
def Document.SlugCorrect (c : Config) (d : Document) : Prop :=
  ∀ t ∈ Node.innerTextsOfAll false d.nodes, t.IsCorrect c

instance (c : Config) (d : Document) : Decidable (d.SlugCorrect c) :=
  inferInstanceAs (Decidable (∀ t ∈ Node.innerTextsOfAll false d.nodes, t.IsCorrect c))

end Template

/-! ### Lists of outcomes -/

section

variable {ε α β : Type}

theorem exists_map_eq_ok_iff {x : Except ε α} {k : α → β} :
    (∃ b, k <$> x = .ok b) ↔ ∃ a, x = .ok a := by
  cases x <;> simp [Functor.map, Except.map]

/-- Something done to the result alone does not change a failure. So the failure of an expansion is
found among its passages. -/
theorem eq_error_of_map_eq_error {x : Except ε α} {k : α → β} {e : ε} (h : k <$> x = .error e) :
    x = .error e := by
  cases x with
  | error e' => exact congrArg Except.error (Except.error.inj h)
  | ok a => cases h

variable {f : α → Except ε β} {xs : List α}

/-- A list of outcomes gives a result exactly when each of them does. The induction is on the
list. -/
theorem exists_mapM_eq_ok_iff :
    (∃ ys, xs.mapM f = .ok ys) ↔ ∀ x ∈ xs, ∃ y, f x = .ok y := by
  induction xs with
  | nil => exact ⟨fun _ _ h => absurd h List.not_mem_nil, fun _ => ⟨[], rfl⟩⟩
  | cons x xs ih =>
    rw [List.forall_mem_cons, ← ih, List.mapM_cons]
    cases f x with
    | error e => simp [bind, Except.bind]
    | ok y => cases xs.mapM f <;> simp [bind, Except.bind, pure, Except.pure]

/-- The failure of a list of outcomes is one of its failures, namely the first. What holds of each
failure in the list therefore holds of the whole. -/
theorem exists_of_mapM_eq_error {e : ε} (h : xs.mapM f = .error e) : ∃ x ∈ xs, f x = .error e := by
  induction xs with
  | nil => cases h
  | cons x xs ih =>
    rw [List.mapM_cons] at h
    cases hx : f x with
    | error e' =>
      rw [hx] at h
      cases h
      exact ⟨x, List.mem_cons_self, hx⟩
    | ok y =>
      cases hxs : xs.mapM f with
      | error e' =>
        rw [hx, hxs] at h
        cases h
        obtain ⟨x', hmem, hx'⟩ := ih hxs
        exact ⟨x', List.mem_cons_of_mem x hmem, hx'⟩
      | ok ys =>
        rw [hx, hxs] at h
        cases h

end

namespace Generation

/-! ### Expansions that fail -/

/-- The properties of a record have the names of the table, whatever their values are. A property
without a value is an empty text, and no failure. -/
theorem propertyText?_eq_none_iff {ρ : Type} [HasProperties ρ] {record : ρ} {languageCode : Int32}
    {name : String} :
    propertyText? record languageCode name = none ↔ name ∉ propertyNames ρ := by
  simp only [propertyText?, Option.map_eq_none_iff, List.find?_eq_none, beq_iff_eq,
    propertyNames, List.mem_map, not_exists, not_and]

namespace Piece

variable {c : Config} {p : Piece}

/-- The text of a piece, and whether it is expanded for an attribute. -/
def innerText (p : Piece) : Template.InnerText :=
  ⟨p.text, p.currentAttribute.isSome⟩

/-- A slug of a piece with a current entity is unknown exactly when the text does not allow for it.
What the entity holds is not asked. -/
theorem insertion?_eq_some_none_iff {w : Spelling} (h : p.currentEntity.isSome = true) :
    p.insertion? c w = some none ↔ ¬ p.innerText.Allows w := by
  obtain ⟨e, he⟩ := Option.isSome_iff_exists.mp h
  simp only [insertion?, Template.InnerText.Allows, innerText]
  cases w.scope with
  | ent => simp [he, propertyText?_eq_none_iff]
  | attr => cases p.currentAttribute <;> simp [propertyText?_eq_none_iff]

/-- A passage can be read unless it is an unknown slug. Characters and slugs without a record are
copied. -/
theorem exists_passageReading_iff {q : Passage} :
    (∃ text, p.passageReading c q = .ok text) ↔
      ∀ w, q = .slug w → p.insertion? c w ≠ some none := by
  cases q with
  | plain ch => simp [passageReading]
  | slug w =>
    simp only [passageReading, slugReading, Passage.slug.injEq, forall_eq']
    rcases p.insertion? c w with _ | _ | text <;> simp

/-- A passage fails only as a slug that is not resolved. There is no other failure in an
expansion. -/
theorem eq_slugResolution_of_passageReading {q : Passage} {e : Failure}
    (h : p.passageReading c q = .error e) : ∃ w, e = .slugResolution w := by
  cases q with
  | plain ch => cases h
  | slug w =>
    simp only [passageReading, slugReading] at h
    split at h
    · cases h
    · exact ⟨w, (Except.error.inj h).symm⟩
    · cases h

/-- A text can be expanded exactly when none of its slugs is unknown, after those of the project are
replaced. -/
theorem exists_expansion_iff :
    (∃ output, p.expansion c = .ok output) ↔
      ∀ w, .slug w ∈ passages (replaceProjectSlugs c p.text.toList) →
        p.insertion? c w ≠ some none := by
  simp only [expansion, exists_map_eq_ok_iff, exists_mapM_eq_ok_iff, exists_passageReading_iff]
  exact ⟨fun h w hw => h _ hw w rfl, fun h q hq w hqw => h w (hqw ▸ hq)⟩

/-- The expansion of a text fails on a slug or not at all. So a failure of a reading always names
one. -/
theorem eq_slugResolution_of_expansion {e : Failure} (h : p.expansion c = .error e) :
    ∃ w, e = .slugResolution w := by
  obtain ⟨q, -, hq⟩ := exists_of_mapM_eq_error (eq_error_of_map_eq_error h)
  exact eq_slugResolution_of_passageReading hq

/-- A piece outside of every entity keeps its slugs and cannot fail: there is no record that an
unknown name could be looked up in. -/
theorem exists_expansion_of_outside (he : p.currentEntity = none)
    (ha : p.currentAttribute = none) : ∃ output, p.expansion c = .ok output := by
  refine exists_expansion_iff.mpr fun w _ => ?_
  simp only [insertion?, he, ha]
  cases w.scope <;> simp

/-- **The expansion of a text for an entity** fails exactly when one of its slugs is not allowed,
whatever the entity is. Here the records drop out of the question. -/
theorem exists_expansion_iff_isCorrect (h : p.currentEntity.isSome = true) :
    (∃ output, p.expansion c = .ok output) ↔ p.innerText.IsCorrect c := by
  simp only [exists_expansion_iff, ne_eq, insertion?_eq_some_none_iff h, not_not,
    ← Template.mem_map_spelling_slugsFrom (n := 0), Template.InnerText.IsCorrect, scan,
    String.toList_ofList, List.mem_map, forall_exists_index, and_imp, forall_apply_eq_imp_iff₂]
  rfl

end Piece

/-- The piece that a text gives for an entity and one of its attributes. -/
def pieceFor (e : Entity) (a : Attribute) (t : Template.InnerText) : Piece :=
  ⟨t.text, some e, if t.isFragment then some a else none⟩

end Generation

/-! ### Pieces and the texts they come from -/

namespace Template

/-- A piece comes from one of the texts, or it stands outside of every entity. -/
def IsPieceOf (texts : List InnerText) (p : Piece) : Prop :=
  p.currentEntity.isSome = true ∧ p.innerText ∈ texts ∨
    p.currentEntity = none ∧ p.currentAttribute = none

theorem IsPieceOf.append_left {texts : List InnerText} {p : Piece} (h : IsPieceOf texts p)
    (more : List InnerText) : IsPieceOf (texts ++ more) p :=
  h.imp_left fun h => ⟨h.1, List.mem_append_left more h.2⟩

theorem IsPieceOf.append_right {texts : List InnerText} {p : Piece} (h : IsPieceOf texts p)
    (more : List InnerText) : IsPieceOf (more ++ texts) p :=
  h.imp_left fun h => ⟨h.1, List.mem_append_right more h.2⟩

variable {c : Config} {es : List Entity}

mutual

/-- The pieces of a node come from its inner texts: no text is expanded for an entity that does not
stand below an entity node. The induction is on the node. -/
theorem Node.isPieceOf_innerTexts {current : Option Entity} {p : Piece} : ∀ n : Node,
    p ∈ n.pieces c es current → IsPieceOf (n.innerTexts current.isSome) p
  | .literal text, h => by
    obtain rfl := List.mem_singleton.mp h
    cases current with
    | none => exact Or.inr ⟨rfl, rfl⟩
    | some e => exact Or.inl ⟨rfl, List.mem_singleton_self _⟩
  | .entity children, h => by
    obtain ⟨e, -, hp⟩ := List.mem_flatMap.mp h
    -- Whatever was current outside, below the node an entity is.
    exact Node.isPieceOf_innerTextsOfAll children hp
  | .attributeList fragment, h => by
    cases current with
    | none => cases h
    | some e =>
      cases fragment with
      | none => cases h
      | some text =>
        obtain ⟨a, -, rfl⟩ := List.mem_map.mp h
        exact Or.inl ⟨rfl, List.mem_singleton_self _⟩
  | .container children, h => Node.isPieceOf_innerTextsOfAll children h
  | .ignored name, h => by cases h

/-- The pieces of nodes come from their inner texts. The list is divided after its first node on
both sides. -/
theorem Node.isPieceOf_innerTextsOfAll {current : Option Entity} {p : Piece} :
    ∀ ns : List Node, p ∈ Node.piecesOfAll c es current ns →
      IsPieceOf (Node.innerTextsOfAll current.isSome ns) p
  | [], h => by cases h
  | n :: ns, h => by
    rcases List.mem_append.mp h with h | h
    · exact (Node.isPieceOf_innerTexts n h).append_left _
    · exact (Node.isPieceOf_innerTextsOfAll ns h).append_right _

end

section

variable {e : Entity} {a : Attribute}

mutual

/-- Each inner text of a node gives a piece, if an entity is kept and one of its attributes. So a
text that is not correct is met by every such list of records. -/
theorem Node.pieceFor_mem_pieces (he : e ∈ keptEntities c es)
    (ha : a ∈ keptAttributes c e.attributes) (inside : Bool) {t : InnerText} : ∀ n : Node,
    t ∈ n.innerTexts inside → pieceFor e a t ∈ n.pieces c es (if inside then some e else none)
  | .literal text, h => by
    cases inside with
    | false => cases h
    | true =>
      obtain rfl := List.mem_singleton.mp h
      exact List.mem_singleton_self _
  | .entity children, h =>
    -- The node repeats its children for every entity that is kept, wherever it stands.
    List.mem_flatMap.mpr ⟨e, he, Node.pieceFor_mem_piecesOfAll he ha true children h⟩
  | .attributeList fragment, h => by
    cases inside with
    | false => cases h
    | true =>
      cases fragment with
      | none => cases h
      | some text =>
        obtain rfl := List.mem_singleton.mp h
        exact List.mem_map.mpr ⟨a, ha, rfl⟩
  | .container children, h => Node.pieceFor_mem_piecesOfAll he ha inside children h
  | .ignored name, h => by cases h

/-- Each inner text of nodes gives a piece, if an entity is kept and one of its attributes. A text
of any node of the list will do. -/
theorem Node.pieceFor_mem_piecesOfAll (he : e ∈ keptEntities c es)
    (ha : a ∈ keptAttributes c e.attributes) (inside : Bool) {t : InnerText} :
    ∀ ns : List Node, t ∈ Node.innerTextsOfAll inside ns →
      pieceFor e a t ∈ Node.piecesOfAll c es (if inside then some e else none) ns
  | [], h => by cases h
  | n :: ns, h => by
    rcases List.mem_append.mp h with h | h
    · exact List.mem_append_left _ (Node.pieceFor_mem_pieces he ha inside n h)
    · exact List.mem_append_right _ (Node.pieceFor_mem_piecesOfAll he ha inside ns h)

end

end

/-! ### Readings of templates -/

namespace Document

variable {d : Document}

theorem exists_reading_iff :
    (∃ output, d.reading c es = .ok output) ↔
      ∀ p ∈ d.pieces c es, ∃ output, p.expansion c = .ok output := by
  rw [reading, exists_map_eq_ok_iff, exists_mapM_eq_ok_iff]

theorem eq_slugResolution_of_reading {f : Failure} (h : d.reading c es = .error f) :
    ∃ w, f = .slugResolution w := by
  obtain ⟨p, -, hp⟩ := exists_of_mapM_eq_error (eq_error_of_map_eq_error h)
  exact p.eq_slugResolution_of_expansion hp

/-- A template that is slug correct can be read with all records. All of its pieces come from texts
that are correct, or stand outside of every entity. -/
theorem exists_reading_of_slugCorrect (h : d.SlugCorrect c) (es : List Entity) :
    ∃ output, d.reading c es = .ok output := by
  refine exists_reading_iff.mpr fun p hp => ?_
  rcases Node.isPieceOf_innerTextsOfAll d.nodes hp with ⟨he, htext⟩ | ⟨he, ha⟩
  · exact (p.exists_expansion_iff_isCorrect he).mpr (h _ htext)
  · exact p.exists_expansion_of_outside he ha

/-- A template that is not slug correct fails for all records of which one is kept, together with an
attribute of it. -/
theorem reading_eq_slugResolution {e : Entity} {a : Attribute} (h : ¬ d.SlugCorrect c)
    (he : e ∈ keptEntities c es) (ha : a ∈ keptAttributes c e.attributes) :
    ∃ w, d.reading c es = .error (.slugResolution w) := by
  cases hread : d.reading c es with
  | error f =>
    obtain ⟨w, rfl⟩ := eq_slugResolution_of_reading hread
    exact ⟨w, rfl⟩
  | ok output =>
    -- A reading without failure shows every inner text to be correct, by the piece it gives.
    refine absurd (fun t ht => ?_) h
    have hpiece : pieceFor e a t ∈ d.pieces c es :=
      Node.pieceFor_mem_piecesOfAll he ha false d.nodes ht
    have hcorrect := (Piece.exists_expansion_iff_isCorrect rfl).mp
      (exists_reading_iff.mp ⟨output, hread⟩ _ hpiece)
    have htext : (pieceFor e a t).innerText = t := by
      obtain ⟨text, _ | _⟩ := t <;> rfl
    rwa [htext] at hcorrect

end Document

end Template

/-! ### Runs of a generator -/

namespace Generator

/-- **Slug failures are decided by the template**: while the flag is down, a template that is slug
correct gives a result for every list of entities; one that is not fails on a slug for every list
in which an entity is included that has an included attribute. -/
theorem generateWith_slugCorrect (g : Generator) (d : Document) (h : g.cancelled = false) :
    (d.SlugCorrect g.config → ∀ es, ∃ result, (g.generateWith d es).2 = .ok result) ∧
    (¬ d.SlugCorrect g.config → ∀ es,
      (∃ e ∈ es, g.config.includesEntity e = true ∧
        ∃ a ∈ e.attributes, g.config.includesAttribute a = true) →
      ∃ w, (g.generateWith d es).2 = .error (.slugResolution w)) := by
  have houtcome := outcome_running_eq_reading h d
  constructor
  · intro hcorrect es
    obtain ⟨output, houtput⟩ := Template.Document.exists_reading_of_slugCorrect hcorrect es
    exact ⟨_, by rw [generateWith_snd, houtcome, houtput]; rfl⟩
  · rintro hcorrect es ⟨e, he, hincluded, a, ha, hattribute⟩
    rw [Config.includesEntity_eq] at hincluded
    rw [Config.includesAttribute_eq] at hattribute
    obtain ⟨w, hw⟩ := Template.Document.reading_eq_slugResolution hcorrect
      (List.mem_filter.mpr ⟨he, hincluded⟩) (List.mem_filter.mpr ⟨ha, hattribute⟩)
    exact ⟨w, by rw [generateWith_snd, houtcome, hw]; rfl⟩

/-- Outside of entities an unknown name does no harm, nor does that of an attribute outside of
fragments; in a fragment it does. -/
theorem generateWith_slugCorrect_unknown :
    (new {}).cancelled = false ∧
      (∃ result, ((new {}).generateWith
        ⟨[.literal "\x7b#ent (unknown)#\x7d",
          .entity [.container [.literal "\x7b#ent (logicalname)#\x7d \x7b#attr (unknown)#\x7d"]]]⟩
        [{ logicalName := "a", attributes := [{ schemaName := "X" }] }]).2 = .ok result) ∧
      ∃ w, ((new {}).generateWith
        ⟨[.entity [.literal "\x7b#ent (logicalname)#\x7d",
          .attributeList (some "\x7b#attr (unknown)#\x7d")]]⟩
        [{ logicalName := "a", attributes := [{ schemaName := "X" }] }]).2 =
        .error (.slugResolution w) := by
  refine ⟨rfl, (generateWith_slugCorrect _ _ rfl).1 (by decide +kernel) _,
    (generateWith_slugCorrect _ _ rfl).2 (by decide +kernel) _ ?_⟩
  exact ⟨_, List.mem_singleton_self _, by decide +kernel,
    _, List.mem_singleton_self _, by decide +kernel⟩

end Generator

end EntityScript
