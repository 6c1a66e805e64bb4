import EntityScript.Proofs.Generation.Reading
import Mathlib.Data.List.Forall2

/-!
# What a run sees of its records

Slugs read from records through the tables of properties, in the language of the configuration.
Filters, the choice of entity types, the exclusion of virtual attributes and two modifiers of slugs
read fields of the records themselves. They see no more than the tables show: each of these fields
is a function of the text of one property (`isCustom_eq_shown`, `attributeType_eq_shown`,
`isPrimaryKey_eq_shown`), and names are shown as they are.

Records are alike (`RenderAlike`) when their tables show the same texts. At alike places of two
lists, alike entities give the same runs, step by step (`Job.map_run_stepsOf`), whatever else they
carry: labels of other languages, the label of the user, what may be changed.

**Main statement**: two lists of entities that are alike give the same result and the same log
(`Generator.generateWith_congr_of_lookAlike`).
-/

namespace EntityScript

open Metadata (Attribute Entity HasProperties PropertyValue TypeCode)
open Template (Node Spelling)

namespace Generation

/-! ### Fields that the tables show -/

section

variable (languageCode : Int32)

/-- A truth value shows as `True` exactly if it is there and true. An absent one shows as no
text. -/
theorem render_ofBool_eq_true_iff (b : Option Bool) :
    (PropertyValue.ofBool b).render languageCode = "True" ↔ b = some true := by
  rcases b with _ | _ | _ <;> simp [PropertyValue.ofBool, PropertyValue.ofOption,
    PropertyValue.render]

/-- An entity is custom when its table says so; a missing value counts as not custom in both. So
nothing that decides about an entity is hidden from its table. -/
theorem isCustom_eq_shown (e : Entity) :
    e.isCustom = (propertyText? e languageCode "iscustomentity" == some "True") := by
  have htext : propertyText? e languageCode "iscustomentity" =
      some ((PropertyValue.ofBool e.isCustomEntity).render languageCode) := rfl
  rw [htext, Bool.eq_iff_iff, beq_iff_eq, Option.some.injEq, render_ofBool_eq_true_iff,
    Entity.isCustom]
  cases e.isCustomEntity <;> simp

/-- An attribute is the primary key when its table says so; a missing value counts as none in
both. -/
theorem isPrimaryKey_eq_shown (a : Attribute) :
    a.isPrimaryKey = (propertyText? a languageCode "isprimaryid" == some "True") := by
  have htext : propertyText? a languageCode "isprimaryid" =
      some ((PropertyValue.ofBool a.isPrimaryId).render languageCode) := rfl
  rw [htext, Bool.eq_iff_iff, beq_iff_eq, Option.some.injEq, render_ofBool_eq_true_iff,
    Attribute.isPrimaryKey]
  cases a.isPrimaryId <;> simp

/-- The type that a text of the table shows; an absent type shows as no text. -/
def shownType (text : String) : Option TypeCode :=
  if text = "" then none else some (TypeCode.ofName text)

/-- The type of an attribute is the one that its table shows. Names of types that are not known are
kept as they are, so no two types show the same text, and none shows an empty one. -/
theorem attributeType_eq_shown (a : Attribute) :
    a.attributeType = (propertyText? a languageCode "attributetype").bind shownType := by
  have htext : propertyText? a languageCode "attributetype" =
      some ((PropertyValue.ofTypeCode a.attributeType).render languageCode) := rfl
  rw [htext, Option.bind_some]
  cases a.attributeType with
  | none => rfl
  | some t =>
    -- A type with an empty name would be taken for an absent one.
    have hname : t.name ≠ "" := by cases t <;> decide
    change some t = shownType t.name
    rw [shownType, if_neg hname, TypeCode.ofName_name]

end

/-! ### Alike records -/

section

variable {ρ : Type} [HasProperties ρ]

/-- In a language, every property of the table has the same text in both records. -/
def RenderAlike (languageCode : Int32) (r s : ρ) : Prop :=
  ∀ p ∈ HasProperties.table (ρ := ρ),
    (p.value r).render languageCode = (p.value s).render languageCode

variable {languageCode : Int32} {r s : ρ}

instance : Decidable (RenderAlike languageCode r s) :=
  List.decidableBAll _ _

/-- Alike records give a slug the same text, by any name, also by one that the table does not
have. -/
theorem RenderAlike.propertyText?_eq (h : RenderAlike languageCode r s) (name : String) :
    propertyText? r languageCode name = propertyText? s languageCode name := by
  rw [propertyText?, propertyText?]
  cases hfind : (HasProperties.table (ρ := ρ)).find? (·.name == name) with
  | none => rfl
  | some p => exact congrArg some (h p (List.mem_of_find?_eq_some hfind))

theorem RenderAlike.properties_eq (h : RenderAlike languageCode r s) :
    Metadata.properties r languageCode = Metadata.properties s languageCode :=
  List.map_congr_left fun p hp => congrArg (p.name, ·) (h p hp)

end

/-- Entities whose tables show the same, and whose attributes do so one by one. -/
structure LookAlike (languageCode : Int32) (e f : Entity) : Prop where
  properties : RenderAlike languageCode e f
  attributes : List.Forall₂ (RenderAlike languageCode) e.attributes f.attributes

/-! ### Alike attributes -/

section

variable {languageCode : Int32} {a b : Attribute} (h : RenderAlike languageCode a b)

include h

/-- Alike attributes have the same name, as the table shows it as it is. It is the name that filters
for attributes are asked about. -/
theorem RenderAlike.schemaName_eq : a.schemaName = b.schemaName :=
  Option.some.inj (h.propertyText?_eq "schemaname")

theorem RenderAlike.attributeType_eq : a.attributeType = b.attributeType := by
  rw [attributeType_eq_shown languageCode a, attributeType_eq_shown languageCode b,
    h.propertyText?_eq]

theorem RenderAlike.isVirtual_eq : a.isVirtual = b.isVirtual := by
  simp only [Attribute.isVirtual, h.attributeType_eq]

/-- A configuration includes both or neither: it looks at the name and at whether they are
virtual. -/
theorem RenderAlike.includesAttribute_eq (c : Config) :
    c.includesAttribute a = c.includesAttribute b := by
  simp only [Config.includesAttribute, h.schemaName_eq, h.isVirtual_eq]

/-- They have the same type in scripts, which depends on their type alone. This is what a slug for
the type inserts. -/
theorem RenderAlike.scriptType_eq : a.scriptType = b.scriptType := by
  simp only [Attribute.scriptType, h.attributeType_eq]

/-- They have the same name in the web interface, which depends on their type, on whether they are
the primary key, and on their name. -/
theorem RenderAlike.webApiName_eq : a.webApiName = b.webApiName := by
  simp only [Attribute.webApiName, Attribute.isLookupField, isPrimaryKey_eq_shown languageCode,
    h.propertyText?_eq, h.schemaName_eq, h.attributeType_eq]

theorem RenderAlike.attributeText_eq (w : Spelling) : attributeText a w = attributeText b w := by
  funext value
  simp only [attributeText, h.scriptType_eq, h.webApiName_eq]

end

/-! ### Alike entities -/

section

variable {languageCode : Int32} {e f : Entity} (h : LookAlike languageCode e f)

include h

/-- Alike entities have the same logical name, as the table shows it as it is. It is the name that
filters for entities are asked about. -/
theorem LookAlike.logicalName_eq : e.logicalName = f.logicalName :=
  Option.some.inj (h.properties.propertyText?_eq "logicalname")

/-- Both are of the types that are asked for, or neither: whether they are custom can be seen. So
the two are skipped for their type in the same cases. -/
theorem LookAlike.includes_eq (t : EntityTypes) : t.includes e = t.includes f := by
  simp only [EntityTypes.includes, isCustom_eq_shown languageCode,
    h.properties.propertyText?_eq]

end

/-! ### Alike steps -/

/-- Pieces of one text, with records that are alike, are expanded alike. The scopes may differ, but
the values of all slugs in them are the same. -/
theorem run_piece_eq (c : Config) (text : String) {current current' : Option Entity}
    {a a' : Option Attribute} (he : Option.Rel (LookAlike c.languageCode) current current')
    (ha : Option.Rel (RenderAlike c.languageCode) a a') :
    (Step.piece ⟨text, current, a⟩).run c = (Step.piece ⟨text, current', a'⟩).run c := by
  have hvalue : ∀ w : Spelling, (Piece.scopes c ⟨text, current, a⟩).value? w =
      (Piece.scopes c ⟨text, current', a'⟩).value? w := by
    intro w
    simp only [value?_scopes, Piece.insertion?]
    -- A slug looks at one of the two records only, and both may be missing.
    cases w.scope with
    | ent =>
      cases he with
      | none => rfl
      | some he => simp only [Option.map_some, he.properties.propertyText?_eq]
    | attr =>
      cases ha with
      | none => rfl
      | some ha => simp only [Option.map_some, ha.propertyText?_eq, ha.attributeText_eq]
  simp only [Step.run, expand, expandPassages_congr hvalue]

namespace Job

/-- The job with other entities. -/
def withEntities (job : Job) (es : List Entity) : Job :=
  { job with entities := es }

section

variable {job : Job} {es : List Entity}

theorem propertyMessages_eq {e f : Entity} (h : LookAlike job.config.languageCode e f) :
    job.propertyMessages e = (job.withEntities es).propertyMessages f :=
  congrArg (List.map _) h.properties.properties_eq

/-- Alike entities are passed over for the same reason or entered with the same messages, and what
is done inside is the same if the body does the same. -/
theorem map_run_stepsVisiting {body body' : Entity → List Step} {e f : Entity}
    (h : LookAlike job.config.languageCode e f)
    (hbody : (body e).map (Step.run job.config) = (body' f).map (Step.run job.config)) :
    (job.stepsVisiting body e).map (Step.run job.config) =
      ((job.withEntities es).stepsVisiting body' f).map (Step.run job.config) := by
  have hmessages : job.propertyMessages e = (job.withEntities es).propertyMessages f :=
    propertyMessages_eq h
  have henter : (job.stepsEntering body e).map (Step.run job.config) =
      ((job.withEntities es).stepsEntering body' f).map (Step.run job.config) := by
    simp only [stepsEntering, List.map_cons, List.map_append, hbody, h.logicalName_eq, hmessages]
  simp only [stepsVisiting, apply_ite (List.map (Step.run job.config)), henter, h.logicalName_eq,
    h.includes_eq]
  rfl

/-- Lists of alike entities are visited alike, by induction on the two lists at once. Each pair has
the same steps up to what is expanded for it. -/
theorem map_run_flatMap_stepsVisiting {body body' : Entity → List Step} {fs gs : List Entity}
    (h : List.Forall₂ (LookAlike job.config.languageCode) fs gs)
    (hbody : ∀ e f, LookAlike job.config.languageCode e f →
      (body e).map (Step.run job.config) = (body' f).map (Step.run job.config)) :
    (fs.flatMap (job.stepsVisiting body)).map (Step.run job.config) =
      (gs.flatMap ((job.withEntities es).stepsVisiting body')).map (Step.run job.config) := by
  induction h with
  | nil => rfl
  | cons h _ ih =>
    rw [List.flatMap_cons, List.flatMap_cons, List.map_append, List.map_append, ih,
      map_run_stepsVisiting h (hbody _ _ h)]

/-- Alike attributes are listed or left out together, and the fragment is expanded alike for
both. -/
theorem map_run_stepsListing (fragment : String) {e f : Entity} {as bs : List Attribute}
    (h : LookAlike job.config.languageCode e f)
    (hattributes : List.Forall₂ (RenderAlike job.config.languageCode) as bs) :
    (job.stepsListing fragment e as).map (Step.run job.config) =
      ((job.withEntities es).stepsListing fragment f bs).map (Step.run job.config) := by
  simp only [stepsListing, withEntities]
  induction hattributes with
  | nil => rfl
  | cons hab _ ih =>
    rw [List.filter_cons, List.filter_cons, hab.includesAttribute_eq]
    split_ifs
    · simp only [List.map_cons, ih, run_piece_eq job.config fragment (.some h) (.some hab)]
    · exact ih

/-- An attribute list does the same for alike entities, and outside of both. The attributes that are
included are alike one by one. -/
theorem map_run_stepsOfList {current current' : Option Entity}
    (h : Option.Rel (LookAlike job.config.languageCode) current current')
    (fragment : Option String) :
    (job.stepsOfList current fragment).map (Step.run job.config) =
      ((job.withEntities es).stepsOfList current' fragment).map (Step.run job.config) := by
  cases h with
  | none => rfl
  | some h =>
    cases fragment with
    | none => rfl
    | some fragment => exact map_run_stepsListing fragment h h.attributes

mutual

/-- **Alike entities give the same runs**, step by step, at every node. The lists of all entities
are alike and so are the two current ones, since an entity node below another one goes through all
of them again. -/
theorem map_run_stepsOf (hes : List.Forall₂ (LookAlike job.config.languageCode) job.entities es)
    {current current' : Option Entity}
    (h : Option.Rel (LookAlike job.config.languageCode) current current') : ∀ n : Node,
    (job.stepsOf current n).map (Step.run job.config) =
      ((job.withEntities es).stepsOf current' n).map (Step.run job.config)
  | .literal text => by
    rw [stepsOf, stepsOf, List.map_cons, List.map_cons, List.map_cons,
      run_piece_eq job.config text h .none]
    rfl
  | .entity children => by
    rw [stepsOf, stepsOf, List.map_cons, List.map_cons]
    exact congrArg _ (map_run_flatMap_stepsVisiting hes
      fun e f hef => map_run_stepsOfAll hes (.some hef) children)
  | .attributeList fragment => by
    rw [stepsOf, stepsOf, List.map_cons, List.map_cons, map_run_stepsOfList h fragment]
  | .container children => by
    rw [stepsOf, stepsOf, List.map_cons, List.map_cons, map_run_stepsOfAll hes h children]
  | .ignored name => rfl

/-- Alike entities give the same runs, step by step, at all nodes. The current entities may differ
as long as they are alike. -/
theorem map_run_stepsOfAll
    (hes : List.Forall₂ (LookAlike job.config.languageCode) job.entities es)
    {current current' : Option Entity}
    (h : Option.Rel (LookAlike job.config.languageCode) current current') : ∀ ns : List Node,
    (job.stepsOfAll current ns).map (Step.run job.config) =
      ((job.withEntities es).stepsOfAll current' ns).map (Step.run job.config)
  | [] => rfl
  | n :: ns => by
    rw [stepsOfAll, stepsOfAll, List.map_append, List.map_append, map_run_stepsOf hes h n,
      map_run_stepsOfAll hes h ns]

end

theorem walk_withEntities
    (hes : List.Forall₂ (LookAlike job.config.languageCode) job.entities es)
    (d : Template.Document) :
    job.walk d = (job.withEntities es).walk d := by
  rw [walk_eq_runSteps, walk_eq_runSteps, runSteps, map_run_stepsOfAll hes .none d.nodes]
  rfl

end

end Job

/-! ### Alike treatment -/

/-- Whatever a run reads of the fields of an attribute, it reads the same of both. -/
structure ReadAlike (c : Config) (a b : Attribute) : Prop where
  filtered : c.filtersAttribute a.schemaName = c.filtersAttribute b.schemaName
  isVirtual : a.isVirtual = b.isVirtual
  scriptType : a.scriptType = b.scriptType
  webApiName : a.webApiName = b.webApiName

/-- Whatever a run reads of the fields of an entity and its attributes, it reads the same of
both. -/
structure TreatedAlike (c : Config) (e f : Entity) : Prop where
  filtered : c.filtersEntity e.logicalName = c.filtersEntity f.logicalName
  included : c.entityTypes.includes e = c.entityTypes.includes f
  attributes : List.Forall₂ (ReadAlike c) e.attributes f.attributes

/-- Attributes whose tables show the same are read alike, field by field. This collects what the
lemmas above say of the single fields. -/
theorem RenderAlike.readAlike {languageCode : Int32} {a b : Attribute}
    (h : RenderAlike languageCode a b) (c : Config) : ReadAlike c a b where
  filtered := by rw [h.schemaName_eq]
  isVirtual := h.isVirtual_eq
  scriptType := h.scriptType_eq
  webApiName := h.webApiName_eq

/-- Entities whose tables show the same are treated alike, with their attributes one by one. It is
the only thing that a walk asks of two entities. -/
theorem LookAlike.treatedAlike {languageCode : Int32} {e f : Entity}
    (h : LookAlike languageCode e f) (c : Config) : TreatedAlike c e f where
  filtered := by rw [h.logicalName_eq]
  included := h.includes_eq c.entityTypes
  attributes := h.attributes.imp fun _ _ hab => hab.readAlike c

end Generation

/-! ### Runs of a generator -/

namespace Generator

open Generation (LookAlike)

/-- **A run sees what the tables show**: on two lists of entities whose tables show the same in the
language of the configuration, one by one and attribute by attribute, a generator gives the same
result and is left with the same log. What it reads of the records themselves is the same on
both. -/
theorem generateWith_congr_of_lookAlike (g : Generator) (d : Template.Document)
    {es fs : List Entity} (h : List.Forall₂ (LookAlike g.config.languageCode) es fs) :
    g.generateWith d es = g.generateWith d fs ∧
      List.Forall₂ (Generation.TreatedAlike g.config) es fs := by
  have hwalk : (g.job es).walk d = (g.job fs).walk d :=
    Generation.Job.walk_withEntities h d
  have hcount : (g.job es).entities.length = (g.job fs).entities.length := h.length_eq
  have hrun : running (g.job es) d = running (g.job fs) d := by
    simp only [running, hwalk, hcount]
    rfl
  exact ⟨congrArg g.runFresh hrun, h.imp fun _ _ hef => hef.treatedAlike g.config⟩

/-- Labels of other languages, the label of the user, what may be changed and an empty name in place
of none are not seen, whatever the slugs ask for and at the level that logs all properties. -/
theorem generateWith_congr_of_lookAlike_labels :
    let e : Entity := {
      logicalName := "account"
      displayName := ⟨[⟨"Account", 1033⟩, ⟨"Konto", 1031⟩], none⟩
      isCustomizable := some ⟨true, false, none⟩
      attributes := [{ schemaName := "OwnerId", attributeType := some .owner }] }
    let f : Entity := {
      logicalName := "account"
      entitySetName := some ""
      displayName := ⟨[⟨"Compte", 1036⟩, ⟨"Account", 1033⟩], some ⟨"Konto", 1031⟩⟩
      isCustomizable := some ⟨true, true, some "canbechanged"⟩
      attributes := [{
        schemaName := "OwnerId"
        attributeType := some .owner
        attributeOf := some ""
        description := ⟨[⟨"Besitzer", 1031⟩], none⟩ }] }
    let g := new { loggingLevel := .verbose }
    let d : Template.Document := ⟨[.entity [.literal "\x7b#ent (displayname)#\x7d: ",
      .attributeList (some "\x7b#attr api(schemaname)#\x7d")]]⟩
    List.Forall₂ (LookAlike 1033) [e] [f] ∧ g.generateWith d [e] = g.generateWith d [f] ∧
      (g.generateWith d [e]).2.toOption.map (·.output) = some "Account: _ownerid_value" := by
  intro e f g d
  have hfields : Generation.RenderAlike 1033 e f := by decide +kernel
  have hattributes : List.Forall₂ (Generation.RenderAlike 1033) e.attributes f.attributes :=
    .cons (by decide +kernel) .nil
  have halike : List.Forall₂ (LookAlike 1033) [e] [f] := .cons ⟨hfields, hattributes⟩ .nil
  exact ⟨halike, (generateWith_congr_of_lookAlike g d halike).1, by decide +kernel⟩

end Generator

end EntityScript
