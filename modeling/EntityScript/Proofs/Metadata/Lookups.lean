import EntityScript.Proofs.Generation.Reading
import EntityScript.Proofs.Text.Ascii
import Mathlib.Data.List.Find

/-!
# Two ways to look up a property

`resolve` compares the name of a property with those of the table and ignores the case of ASCII
letters. A slug brings its whole name to lower case first, by the rules of Unicode, and then asks
the scope of the record for exactly this name. The two could differ on names outside of ASCII: the
Kelvin sign is `k` in lower case, and only for the second lookup. But no name of a table has a `k`
or anything else than small letters, each has one place in its table, and to such names nothing is
lowered but what `resolve` takes for them as well (`name_beq_lowercase`).

**Main statement**: for every text the two lookups give the same answer, the scope lists the answers
of `resolve` in the order of the table, and a slug finds its property exactly when `resolve` knows
it as it is written (`lookups_agree`).
-/

namespace EntityScript

open Metadata (Attribute Entity HasProperties Scope resolve)
open Template (Spelling)

namespace Metadata

/-! ### Names of tables -/

/-- The names of a table consist of plain letters, and no two properties share one. -/
structure IsPlainTable {ρ : Type} (table : List (Property ρ)) : Prop where
  plain : ∀ p ∈ table, Text.IsPlain p.name.toList
  nodup : (table.map (·.name)).Nodup

theorem isPlainTable_entityProperties : IsPlainTable entityProperties where
  plain := by decide
  nodup := by decide

theorem isPlainTable_attributeProperties : IsPlainTable attributeProperties where
  plain := by decide
  nodup := by decide

/-! ### Looking up a name -/

section

variable {name : String}

/-- **A plain name** is the lower-case form of just the texts that differ from it in the case of
ASCII letters. -/
theorem name_beq_lowercase (h : Text.IsPlain name.toList) (property : String) :
    (name == Text.lowercase property) = Text.eqIgnoringAsciiCase name property := by
  rw [Bool.eq_iff_iff, beq_iff_eq, Text.eqIgnoringAsciiCase, h.map_toLower, beq_iff_eq,
    ← String.toList_inj, Text.toList_lowercase, eq_comm, Text.lower_eq_iff h, eq_comm]

/-- Plain names that differ in nothing but case are the same. So no name of a table stands for
another one. -/
theorem eqIgnoringAsciiCase_of_plain {other : String} (h : Text.IsPlain name.toList)
    (h' : Text.IsPlain other.toList) :
    Text.eqIgnoringAsciiCase name other = (name == other) := by
  rw [Bool.eq_iff_iff, beq_iff_eq, Text.eqIgnoringAsciiCase, h.map_toLower,
    h'.map_toLower, beq_iff_eq, String.toList_inj]

end

/-- Among items of different names, that of a given name is found, whichever place it has. The names
of a table are different, so this finds a property by its own name. -/
theorem find?_name_of_nodup {α : Type} {name : α → String} {items : List α}
    (hnodup : (items.map name).Nodup) {a : α} (ha : a ∈ items) :
    items.find? (name · == name a) = some a := by
  induction items with
  | nil => cases ha
  | cons b items ih =>
    obtain ⟨hb, hitems⟩ := List.nodup_cons.mp hnodup
    rcases List.mem_cons.mp ha with rfl | ha
    · exact List.find?_cons_of_pos (beq_self_eq_true _)
    · have hne : (name b == name a) = false :=
        beq_eq_false_iff_ne.mpr fun heq => hb (heq ▸ List.mem_map_of_mem ha)
      rw [List.find?_cons, hne]
      exact ih hitems ha

section

variable {ρ : Type} [HasProperties ρ]

/-- The lookup in the scope of a record and `resolve` agree, and the scope lists all that `resolve`
knows. -/
structure LookupsAgree (record : ρ) (languageCode : Int32) : Prop where
  /-- A text in lower case has the value in the scope that `resolve` gives for the text. -/
  get?_lowercase : ∀ property : String,
    (Scope.of record languageCode).get? (Text.lowercase property) =
      resolve record property languageCode
  /-- The scope has the properties of the table in their order, with the values of `resolve`. -/
  values_eq : (Scope.of record languageCode).values.map (fun (name, value) => (name, some value)) =
    (HasProperties.table (ρ := ρ)).map fun p => (p.name, resolve record p.name languageCode)
  /-- No property is listed twice. -/
  nodup : ((Scope.of record languageCode).values.map (·.1)).Nodup

variable {record : ρ} {languageCode : Int32}

theorem resolve_name (h : IsPlainTable (HasProperties.table (ρ := ρ))) {p : Property ρ}
    (hp : p ∈ HasProperties.table (ρ := ρ)) :
    resolve record p.name languageCode = some ((p.value record).render languageCode) := by
  have hfind : (HasProperties.table (ρ := ρ)).find? (Text.eqIgnoringAsciiCase ·.name p.name) =
      some p := by
    rw [List.find?_congr fun q hq => eqIgnoringAsciiCase_of_plain (h.plain q hq) (h.plain p hp)]
    exact find?_name_of_nodup h.nodup hp
  rw [resolve, hfind]
  rfl

/-- **Over a plain table** the two lookups agree. Both tables are plain, which is checked by going
through them. -/
theorem lookupsAgree_of_isPlainTable (h : IsPlainTable (HasProperties.table (ρ := ρ)))
    (record : ρ) (languageCode : Int32) : LookupsAgree record languageCode where
  get?_lowercase property := by
    rw [Generation.get?_scope_of, Generation.propertyText?, resolve,
      List.find?_congr fun p hp => name_beq_lowercase (h.plain p hp) property]
  values_eq := by
    rw [Scope.of, properties, List.map_map]
    exact List.map_congr_left fun p hp => congrArg (Prod.mk p.name) (resolve_name h hp).symm
  nodup := by
    rw [Scope.of, properties, List.map_map]
    exact h.nodup

end

end Metadata

/-! ### Slugs -/

/-- The name of the property as it is written, without blanks. -/
def Template.Spelling.writtenProperty (w : Spelling) : String :=
  String.ofList (w.inner.filter (!Text.isBlank ·))

/-- The property of a slug is its written name in lower case. Blanks are taken out of it before or
after with the same result. -/
theorem Template.Spelling.lowercase_writtenProperty (w : Spelling) :
    Text.lowercase w.writtenProperty = w.property := by
  rw [Text.lowercase, writtenProperty, String.toList_ofList]
  rfl

namespace Generation

/-- What `resolve` gives for the property that a slug names, if there is a record for the slug to
read from. -/
def Piece.resolved? (c : Config) (p : Piece) (w : Spelling) : Option (Option String) :=
  match w.scope with
  | .ent => p.currentEntity.map (resolve · w.writtenProperty c.languageCode)
  | .attr => p.currentAttribute.map (resolve · w.writtenProperty c.languageCode)

theorem get?_property {ρ : Type} [HasProperties ρ] {record : ρ} {languageCode : Int32}
    (h : Metadata.LookupsAgree record languageCode) (w : Spelling) :
    (Scope.of record languageCode).get? w.property =
      resolve record w.writtenProperty languageCode := by
  rw [← w.lowercase_writtenProperty, h.get?_lowercase]

theorem entityLookupsAgree (e : Entity) (languageCode : Int32) :
    Metadata.LookupsAgree e languageCode :=
  Metadata.lookupsAgree_of_isPlainTable Metadata.isPlainTable_entityProperties e languageCode

theorem attributeLookupsAgree (a : Attribute) (languageCode : Int32) :
    Metadata.LookupsAgree a languageCode :=
  Metadata.lookupsAgree_of_isPlainTable Metadata.isPlainTable_attributeProperties a languageCode

/-- What a slug inserts is made of what `resolve` gives for it: by its modifier, which never decides
whether there is a value. -/
theorem exists_value?_eq_map (c : Config) (p : Piece) (w : Spelling) :
    ∃ change : String → String,
      (p.scopes c).value? w = (p.resolved? c w).map (Option.map change) := by
  simp only [Scopes.value?, Piece.scopes, Piece.resolved?]
  cases w.scope with
  | ent =>
    refine ⟨w.modifier.apply, ?_⟩
    cases p.currentEntity with
    | none => rfl
    | some e => exact congrArg (some <| Option.map _ ·) (get?_property (entityLookupsAgree e _) w)
  | attr =>
    cases p.currentAttribute with
    | none => exact ⟨id, rfl⟩
    | some a =>
      exact ⟨_, congrArg (some <| Option.map _ ·) (get?_property (attributeLookupsAgree a _) w)⟩

/-- **The lookups agree**: for every entity and every attribute the lookup of a name in lower case
gives what `resolve` gives for the name, and the scope lists every property of the table once with
the value of `resolve`. So a slug has a value exactly when `resolve` knows its property as it is
written, and fails exactly when there is a record of which `resolve` does not know it. -/
theorem lookups_agree :
    (∀ (e : Entity) (languageCode : Int32), Metadata.LookupsAgree e languageCode) ∧
    (∀ (a : Attribute) (languageCode : Int32), Metadata.LookupsAgree a languageCode) ∧
    ∀ (c : Config) (p : Piece) (w : Spelling),
      ((∃ text, (p.scopes c).value? w = some (some text)) ↔
        ∃ text, p.resolved? c w = some (some text)) ∧
      ((expandSlug (p.scopes c) w).outcome = .error (.slugResolution w) ↔
        p.resolved? c w = some none) := by
  refine ⟨entityLookupsAgree, attributeLookupsAgree, fun c p w => ?_⟩
  obtain ⟨change, hvalue⟩ := exists_value?_eq_map c p w
  rw [outcome_expandSlug, Piece.slugReading, ← value?_scopes, hvalue]
  rcases p.resolved? c w with _ | _ | text <;> simp

end Generation

end EntityScript
