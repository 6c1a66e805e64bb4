import EntityScript.Proofs.Generation.Steps
import EntityScript.Proofs.Template.ElementNames
import EntityScript.Proofs.Template.Scanning
import EntityScript.Proofs.Text.Lines

/-!
# Messages on one line

A message is put together from fixed texts and from the inputs of a run. A line feed gets into it
only from these: the path of the template, the name of the project, a value of a property, a slug
that is broken after a keyword, or a fault in the markup of the template. Where none of them has a
line feed (`Job.HasLines`, `Node.HasLines`), no message of a run has one, on no level, and neither
has the message of a failure.

`Run.Says P` says of a run that all its messages have the property `P`. It is kept by every way in
which runs are put together, so it is shown for the steps of a walk one by one (`Step.HasLines`).

**Main statements**: `Generator.says_running` for a template that is given, and for one that has to
be loaded `Generator.FileHasLines.says_loading_running`.
-/

namespace EntityScript

open Metadata (Attribute Entity HasProperties Scope properties)
open Template (Modifier Node Passage Spelling passages scan)

/-! ### Lines -/

/-- The text has no line feed. -/
def IsLine (s : String) : Prop :=
  Text.IsSingle s.toList

instance (s : String) : Decidable (IsLine s) :=
  inferInstanceAs (Decidable (Text.IsSingle _))

theorem IsLine.append {s t : String} (hs : IsLine s) (ht : IsLine t) : IsLine (s ++ t) := by
  rw [IsLine, String.toList_append]
  exact Text.isSingle_append.mpr ⟨hs, ht⟩

theorem isLine_ofList {s : List Char} : IsLine (String.ofList s) ↔ Text.IsSingle s := by
  rw [IsLine, String.toList_ofList]

theorem isLine_toString (n : Nat) : IsLine (toString n) :=
  Text.isSingle_repr n

/-- A modifier keeps a line a line. Changing the case of a text is the only thing that a modifier
does, and it makes no line feed. -/
theorem Template.Modifier.isLine_apply {s : String} (h : IsLine s) (m : Modifier) :
    IsLine (m.apply s) := by
  cases m with
  | identity | dataType | webApi => exact h
  | upper => exact isLine_ofList.mpr h.upper
  | lower => exact isLine_ofList.mpr h.lower
  | title => exact isLine_ofList.mpr h.capitalize

/-- A slug that is written on one line names its property on one. Lowering the name brings no line
feed into it. -/
theorem Template.Spelling.isLine_property {w : Spelling} (h : Text.IsSingle w.toList) :
    IsLine w.property := by
  refine isLine_ofList.mpr (Text.IsSingle.lower (h.of_subset fun c hc => ?_))
  have hinner : c ∈ w.inner := (List.mem_filter.mp hc).1
  simp [Spelling.toList, hinner]

/-! ### Runs -/

namespace Run

variable {α β : Type} {P : String → Prop} {r : Run α}

/-- All messages that the run records, and that of the failure in which it may end, have the
property. -/
structure Says (P : String → Prop) (r : Run α) : Prop where
  message_of_mem : ∀ x ∈ r.records, P x.message
  message_of_error : ∀ e, r.outcome = .error e → P e.message

theorem says_pure (a : α) : Says P (Pure.pure a : Run α) :=
  ⟨List.forall_mem_nil _, nofun⟩

theorem says_record {l : LogLevel} {message : String} (h : P message) :
    Says P (record l message) :=
  ⟨List.forall_mem_singleton.mpr h, nofun⟩

theorem says_fail {e : Failure} (h : P e.message) : Says P (fail e : Run α) :=
  ⟨List.forall_mem_nil _, by rintro _ ⟨⟩; exact h⟩

theorem says_ofExcept {outcome : Except Failure α} (h : ∀ e, outcome = .error e → P e.message) :
    Says P (ofExcept outcome) :=
  ⟨List.forall_mem_nil _, h⟩

theorem Says.bind (hr : r.Says P) {f : α → Run β} (hf : ∀ a, r.outcome = .ok a → (f a).Says P) :
    (r >>= f).Says P := by
  cases h : r.outcome with
  | error e =>
    rw [bind_of_error h]
    exact ⟨hr.message_of_mem, by rintro _ ⟨⟩; exact hr.message_of_error e h⟩
  | ok a =>
    rw [bind_of_ok h]
    exact ⟨List.forall_mem_append.mpr ⟨hr.message_of_mem, (hf a h).message_of_mem⟩,
      (hf a h).message_of_error⟩

theorem says_concat {rs : List (Run String)} (h : ∀ r ∈ rs, r.Says P) : (concat rs).Says P := by
  induction rs with
  | nil => exact says_pure ""
  | cons r rs ih =>
    obtain ⟨hr, hrs⟩ := List.forall_mem_cons.mp h
    exact hr.bind fun text _ => (ih hrs).bind fun rest _ => says_pure (text ++ rest)

theorem Says.recordFailure (h : r.Says P) : r.recordFailure.Says P := by
  cases houtcome : r.outcome with
  | ok a => simpa only [Run.recordFailure, houtcome] using h
  | error e =>
    simp only [Run.recordFailure, houtcome]
    refine ⟨List.forall_mem_append.mpr ⟨h.message_of_mem, ?_⟩, ?_⟩
    · exact List.forall_mem_singleton.mpr (h.message_of_error e houtcome)
    · rintro _ ⟨⟩
      exact h.message_of_error e houtcome

theorem Says.forall_messages (h : r.Says P) (l : LogLevel) : ∀ m ∈ r.messages l, P m := by
  intro m hm
  obtain ⟨x, hx, rfl⟩ := List.mem_map.mp hm
  exact h.message_of_mem x (List.mem_filter.mp hx).1

end Run

/-! ### Values -/

namespace Metadata

/-- Every property of the record has a value on one line. -/
def HasLines {ρ : Type} [HasProperties ρ] (record : ρ) (languageCode : Int32) : Prop :=
  ∀ p ∈ properties record languageCode, IsLine p.2

instance {ρ : Type} [HasProperties ρ] (record : ρ) (languageCode : Int32) :
    Decidable (HasLines record languageCode) :=
  List.decidableBAll (fun p : String × String => IsLine p.2) _

variable {e : Entity} {a : Attribute} {languageCode : Int32}

theorem HasLines.logicalName (h : HasLines e languageCode) : IsLine e.logicalName :=
  h ("logicalname", e.logicalName) (List.mem_cons_of_mem _ List.mem_cons_self)

theorem HasLines.schemaName (h : HasLines a languageCode) : IsLine a.schemaName :=
  h ("schemaname", a.schemaName)
    (List.mem_cons_of_mem _ (List.mem_cons_of_mem _ List.mem_cons_self))

theorem HasLines.webApiName (h : HasLines a languageCode) : IsLine a.webApiName := by
  have hname : IsLine (Text.lowercase a.schemaName) := isLine_ofList.mpr h.schemaName.lower
  rw [Attribute.webApiName]
  split
  · exact (IsLine.append (by decide) hname).append (by decide)
  · exact hname

theorem HasLines.get? {ρ : Type} [HasProperties ρ] {record : ρ}
    (h : HasLines record languageCode) {property value : String}
    (hvalue : (Scope.of record languageCode).get? property = some value) : IsLine value := by
  obtain ⟨p, hp, rfl⟩ := Option.map_eq_some_iff.mp hvalue
  exact h p (List.mem_of_find?_eq_some hp)

theorem isLine_of_mem_properties {p : String × String} (h : p ∈ properties e languageCode) :
    IsLine p.1 := by
  obtain ⟨q, hq, rfl⟩ := List.mem_map.mp h
  exact (by decide : ∀ q ∈ entityProperties, IsLine q.name) q hq

end Metadata

namespace Generation

open Metadata (HasLines)

/-! ### Pieces -/

/-- The slugs of a text of the template are each on one line. -/
def SlugsOnLines (c : Config) (text : String) : Prop :=
  ∀ slug ∈ scan (String.ofList (replaceProjectSlugs c text.toList)), IsLine slug.raw

instance (c : Config) (text : String) : Decidable (SlugsOnLines c text) :=
  List.decidableBAll (fun slug : Template.Slug => IsLine slug.raw) _

theorem SlugsOnLines.isSingle {c : Config} {text : String} (h : SlugsOnLines c text)
    {w : Spelling} (hw : .slug w ∈ passages (replaceProjectSlugs c text.toList)) :
    Text.IsSingle w.toList := by
  rw [← Template.mem_map_spelling_slugsFrom (n := 0)] at hw
  obtain ⟨slug, hslug, rfl⟩ := List.mem_map.mp hw
  exact isLine_ofList.mp (h slug (by rwa [scan, String.toList_ofList]))

/-- The records that a piece reads from, and its slugs, have nothing but lines. -/
structure Piece.HasLines (c : Config) (p : Piece) : Prop where
  slugs : SlugsOnLines c p.text
  of_entity : ∀ e ∈ p.currentEntity, Metadata.HasLines e c.languageCode
  of_attribute : ∀ a ∈ p.currentAttribute, Metadata.HasLines a c.languageCode

theorem isLine_attributeValue {a : Attribute} {languageCode : Int32}
    (h : HasLines a languageCode) {w : Spelling} {value : String}
    (hvalue : attributeValue (Scope.of a languageCode) w = some value) : IsLine value := by
  obtain ⟨found, hfound, rfl⟩ := Option.map_eq_some_iff.mp hvalue
  split
  · rw [Scope.of]
    cases a.scriptType <;> decide
  · split
    · exact h.webApiName
    · exact w.modifier.isLine_apply (h.get? hfound)

theorem isLine_entityValue {e : Entity} {languageCode : Int32} (h : HasLines e languageCode)
    {w : Spelling} {value : String}
    (hvalue : entityValue (Scope.of e languageCode) w = some value) : IsLine value := by
  obtain ⟨found, hfound, rfl⟩ := Option.map_eq_some_iff.mp hvalue
  exact w.modifier.isLine_apply (h.get? hfound)

variable {c : Config} {p : Piece}

theorem Piece.HasLines.isLine_value (h : p.HasLines c) {w : Spelling} {value : String}
    (hvalue : (p.scopes c).value? w = some (some value)) : IsLine value := by
  rw [Scopes.value?] at hvalue
  cases hscope : w.scope with
  | ent =>
    simp only [hscope, scopes, Option.map_map, Option.map_eq_some_iff] at hvalue
    obtain ⟨e, he, hvalue⟩ := hvalue
    exact isLine_entityValue (h.of_entity e he) hvalue
  | attr =>
    simp only [hscope, scopes, Option.map_map, Option.map_eq_some_iff] at hvalue
    obtain ⟨a, ha, hvalue⟩ := hvalue
    exact isLine_attributeValue (h.of_attribute a ha) hvalue

theorem isLine_slugResolution {w : Spelling} (hw : Text.IsSingle w.toList) :
    IsLine (Failure.slugResolution w).message := by
  have hmessage : (Failure.slugResolution w).message = "unknown " ++ w.scope.name ++
      " property '" ++ w.property ++ "' in slug '" ++ String.ofList w.toList ++ "'" := rfl
  have hscope : IsLine w.scope.name := by cases w.scope <;> decide
  have hproperty : IsLine w.property := Spelling.isLine_property hw
  have hraw : IsLine (String.ofList w.toList) := isLine_ofList.mpr hw
  have hstart : IsLine ("unknown " ++ w.scope.name) := .append (by decide) hscope
  rw [hmessage]
  exact ((((hstart.append (by decide)).append hproperty).append (by decide)).append hraw).append
    (by decide)

theorem isLine_matchMessage {w : Spelling} (hw : Text.IsSingle w.toList) {value : String}
    (hvalue : IsLine value) : IsLine (matchMessage w value) := by
  have hproperty : IsLine w.property := Spelling.isLine_property hw
  have hraw : IsLine (String.ofList w.toList) := isLine_ofList.mpr hw
  have hstart : IsLine ("Match: " ++ String.ofList w.toList) := .append (by decide) hraw
  exact (((hstart.append (by decide)).append hproperty).append (by decide)).append hvalue

theorem Piece.HasLines.says_expandSlug (h : p.HasLines c) {w : Spelling}
    (hw : Text.IsSingle w.toList) : (expandSlug (p.scopes c) w).Says IsLine := by
  rw [expandSlug]
  split
  · exact Run.says_pure _
  · exact Run.says_fail (isLine_slugResolution hw)
  · next value hvalue =>
    exact (Run.says_record (isLine_matchMessage hw (h.isLine_value hvalue))).bind fun _ _ =>
      Run.says_pure _

theorem Piece.HasLines.says_expandPassages (h : p.HasLines c) {ps : List Passage}
    (hps : ∀ w, .slug w ∈ ps → Text.IsSingle w.toList) :
    (expandPassages (p.scopes c) ps).Says IsLine := by
  induction ps with
  | nil => exact Run.says_pure []
  | cons q ps ih =>
    have hrest := ih fun w hw => hps w (List.mem_cons_of_mem _ hw)
    cases q with
    | plain ch => exact hrest.bind fun _ _ => Run.says_pure _
    | slug w =>
      exact (h.says_expandSlug (hps w List.mem_cons_self)).bind fun _ _ =>
        hrest.bind fun _ _ => Run.says_pure _

theorem Piece.HasLines.says_expand (h : p.HasLines c) :
    (expand c (p.scopes c) p.text).Says IsLine :=
  (h.says_expandPassages fun _ hw => h.slugs.isSingle hw).bind fun _ _ => Run.says_pure _

/-! ### Steps -/

/-- What the step tells is told on one line. -/
def Step.HasLines (c : Config) : Step → Prop
  | note _ message => IsLine message
  | piece p => p.HasLines c
  | halt e => IsLine e.message

theorem Step.HasLines.says_run {s : Step} (h : s.HasLines c) : (s.run c).Says IsLine := by
  cases s with
  | note level message => exact (Run.says_record h).bind fun _ _ => Run.says_pure ""
  | piece p => exact Piece.HasLines.says_expand h
  | halt e => exact Run.says_fail h

end Generation

/-! ### Nodes -/

namespace Template

/-- The name of the node is a line, and so are the slugs of its text. -/
structure Node.HasLines (c : Config) (n : Node) : Prop where
  name : IsLine n.name
  slugs : ∀ text ∈ n.text?, Generation.SlugsOnLines c text

instance (c : Config) (n : Node) : Decidable (n.HasLines c) :=
  decidable_of_iff (IsLine n.name ∧ ∀ text ∈ n.text?, Generation.SlugsOnLines c text)
    ⟨fun h => ⟨h.1, h.2⟩, fun h => ⟨h.name, h.slugs⟩⟩

end Template

namespace Generation

namespace Job

/-- The name of the project is a line, and so are the values of all properties of the entities and
their attributes. -/
structure HasLines (job : Job) : Prop where
  moduleName : IsLine job.config.moduleName
  of_entity : ∀ e ∈ job.entities, Metadata.HasLines e job.config.languageCode
  of_attribute : ∀ e ∈ job.entities, ∀ a ∈ e.attributes,
    Metadata.HasLines a job.config.languageCode

instance (job : Job) : Decidable job.HasLines :=
  decidable_of_iff (IsLine job.config.moduleName ∧ ∀ e ∈ job.entities,
      Metadata.HasLines e job.config.languageCode ∧
        ∀ a ∈ e.attributes, Metadata.HasLines a job.config.languageCode)
    ⟨fun h => ⟨h.1, fun e he => (h.2 e he).1, fun e he => (h.2 e he).2⟩,
      fun h => ⟨h.moduleName, fun e he => ⟨h.of_entity e he, h.of_attribute e he⟩⟩⟩

variable {job : Job}

theorem hasLines_propertyMessages {e : Entity} (h : Metadata.HasLines e job.config.languageCode) :
    ∀ m ∈ job.propertyMessages e, IsLine m := by
  intro m hm
  obtain ⟨p, hp, rfl⟩ := List.mem_map.mp hm
  have hname : IsLine ("Property Name: " ++ p.1) :=
    .append (by decide) (Metadata.isLine_of_mem_properties hp)
  exact (hname.append (by decide)).append (h p hp)

theorem isLine_cancelled {name : String} (h : IsLine name) :
    IsLine (Failure.cancelled name).message :=
  (IsLine.append (by decide) h).append (by decide)

theorem HasLines.stepsVisiting (h : job.HasLines) {body : Entity → List Step}
    (hbody : ∀ e ∈ job.entities, ∀ s ∈ body e, s.HasLines job.config) {e : Entity}
    (he : e ∈ job.entities) : ∀ s ∈ job.stepsVisiting body e, s.HasLines job.config := by
  have hname : IsLine e.logicalName := (h.of_entity e he).logicalName
  rw [Job.stepsVisiting]
  split_ifs
  · exact List.forall_mem_singleton.mpr (isLine_cancelled hname)
  · exact List.forall_mem_singleton.mpr (IsLine.append (by decide) hname)
  · have htypes : IsLine job.config.entityTypes.name := by
      cases job.config.entityTypes <;> decide
    exact List.forall_mem_singleton.mpr
      (((IsLine.append (by decide) htypes).append (by decide)).append hname)
  · refine List.forall_mem_cons.mpr ⟨IsLine.append (by decide) hname, ?_⟩
    refine List.forall_mem_append.mpr ⟨fun s hs => ?_, hbody e he⟩
    obtain ⟨m, hm, rfl⟩ := List.mem_map.mp hs
    exact hasLines_propertyMessages (h.of_entity e he) m hm

theorem HasLines.stepsOfList (h : job.HasLines) {current : Option Entity}
    (hcurrent : ∀ e ∈ current, e ∈ job.entities) {fragment : Option String}
    (hfragment : ∀ text ∈ fragment, SlugsOnLines job.config text) :
    ∀ s ∈ job.stepsOfList current fragment, s.HasLines job.config := by
  cases current with
  | none => exact List.forall_mem_singleton.mpr (by decide : IsLine _)
  | some e =>
    cases fragment with
    | none => exact List.forall_mem_nil _
    | some fragment =>
      intro s hs
      obtain ⟨a, ha, rfl⟩ := List.mem_map.mp hs
      have he : e ∈ job.entities := hcurrent e rfl
      exact {
        slugs := hfragment fragment rfl
        of_entity := by rintro _ ⟨⟩; exact h.of_entity e he
        of_attribute := by rintro _ ⟨⟩; exact h.of_attribute e he a (List.mem_filter.mp ha).1 }

theorem hasLines_note {n : Node} (h : n.HasLines job.config) :
    (Step.note .information ("Process node: " ++ n.name)).HasLines job.config :=
  IsLine.append (by decide) h.name

mutual

/-- The steps of a node tell everything on lines if the node and those below it do. The induction is
on the node, and the current entity is one of the list. -/
theorem HasLines.stepsOf (h : job.HasLines) {current : Option Entity}
    (hcurrent : ∀ e ∈ current, e ∈ job.entities) : ∀ n : Node, n.HasLines job.config →
      (∀ item ∈ n.listing, item.2.HasLines job.config) →
        ∀ s ∈ job.stepsOf current n, s.HasLines job.config
  | .literal text, hn, _ => by
    rw [Job.stepsOf]
    refine List.forall_mem_cons.mpr ⟨hasLines_note hn, List.forall_mem_singleton.mpr ?_⟩
    exact {
      slugs := hn.slugs text rfl
      of_entity := fun e he => h.of_entity e (hcurrent e he)
      of_attribute := fun a ha => absurd ha (Option.not_mem_none a) }
  | .entity children, hn, hbelow => by
    rw [Job.stepsOf]
    refine List.forall_mem_cons.mpr ⟨hasLines_note hn, fun s hs => ?_⟩
    obtain ⟨e, he, hs⟩ := List.mem_flatMap.mp hs
    refine h.stepsVisiting (fun e he => ?_) he s hs
    exact h.stepsOfAll (by rintro _ ⟨⟩; exact he) 0 children hbelow
  | .attributeList fragment, hn, _ => by
    rw [Job.stepsOf]
    exact List.forall_mem_cons.mpr ⟨hasLines_note hn, h.stepsOfList hcurrent hn.slugs⟩
  | .container children, hn, hbelow => by
    rw [Job.stepsOf]
    exact List.forall_mem_cons.mpr ⟨hasLines_note hn, h.stepsOfAll hcurrent 0 children hbelow⟩
  | .ignored name, hn, _ => by
    rw [Job.stepsOf]
    exact List.forall_mem_singleton.mpr (hasLines_note hn)

theorem HasLines.stepsOfAll (h : job.HasLines) {current : Option Entity}
    (hcurrent : ∀ e ∈ current, e ∈ job.entities) (k : Nat) : ∀ ns : List Node,
      (∀ item ∈ Node.listingFrom k ns, item.2.HasLines job.config) →
        ∀ s ∈ job.stepsOfAll current ns, s.HasLines job.config
  | [], _ => List.forall_mem_nil _
  | n :: ns, hall => by
    obtain ⟨hfirst, hrest⟩ := List.forall_mem_append.mp hall
    obtain ⟨hn, hbelow⟩ := List.forall_mem_cons.mp hfirst
    refine List.forall_mem_append.mpr ⟨h.stepsOf hcurrent n hn fun item hitem => ?_,
      h.stepsOfAll hcurrent (k + 1) ns hrest⟩
    exact hbelow (Prod.map (List.cons k) id item) (List.mem_map_of_mem hitem)

end

/-- **A walk tells everything on lines** if its inputs are lines. Its inputs are the name of the
project, the values of the records, and the names and slugs of the template. -/
theorem HasLines.says_walk (h : job.HasLines) {d : Template.Document}
    (hd : ∀ item ∈ d.listing, item.2.HasLines job.config) : (job.walk d).Says IsLine := by
  rw [walk_eq_runSteps, runSteps]
  refine Run.says_concat fun r hr => ?_
  obtain ⟨s, hs, rfl⟩ := List.mem_map.mp hr
  have hcurrent : ∀ e ∈ (none : Option Entity), e ∈ job.entities :=
    fun e he => absurd he (Option.not_mem_none e)
  exact (h.stepsOfAll hcurrent 0 d.nodes hd s hs).says_run

end Job

end Generation

/-! ### Runs of a generator -/

namespace Generator

/-- The path of the template is a line, and so is the message of a fault in what its file holds; if
that is a template, its slugs are on lines. -/
structure FileHasLines (c : Config) (content : Except FileError String) : Prop where
  path : IsLine c.scriptTemplate
  of_fault : ∀ s f, content = .ok s → Template.Document.parse s = .error f → IsLine f.message
  of_document : ∀ s d, content = .ok s → Template.Document.parse s = .ok d →
    ∀ item ∈ d.listing, ∀ text ∈ item.2.text?, Generation.SlugsOnLines c text

theorem says_running {job : Generation.Job} (h : job.HasLines) {d : Template.Document}
    (hd : ∀ item ∈ d.listing, item.2.HasLines job.config) : (running job d).Says IsLine := by
  have hcount : IsLine (toString job.entities.length) := isLine_toString _
  have hstart : IsLine ("Generating " ++ job.config.moduleName ++ " for " ++
      toString job.entities.length ++ " entities") :=
    (((IsLine.append (by decide) h.moduleName).append (by decide)).append hcount).append (by decide)
  have hend : IsLine "Generation complete" := by decide
  exact (Run.says_record hstart).bind fun _ _ => (h.says_walk hd).recordFailure.bind fun output _ =>
    (Run.says_record hend).bind fun _ _ => Run.says_pure output

theorem outcome_loading (path : String) (content : Except FileError String) :
    (loading path content).outcome = Template.Document.ofFile path content := by
  simp only [loading, Run.outcome_bind, Run.outcome_recordFailure]
  rfl

section

variable {c : Config} {content : Except FileError String}

theorem FileHasLines.isLine_message (h : FileHasLines c content) {e : Failure}
    (he : Template.Document.ofFile c.scriptTemplate content = .error e) : IsLine e.message := by
  cases content with
  | error cause =>
    obtain rfl := Except.error.inj he
    exact .append (by decide) h.path
  | ok s =>
    rw [Template.Document.ofFile] at he
    cases hparse : Template.Document.parse s with
    | ok d => rw [hparse] at he; cases he
    | error f =>
      rw [hparse] at he
      obtain rfl := Except.error.inj he
      have hfault : IsLine f.message := h.of_fault s f rfl hparse
      exact ((IsLine.append (by decide) h.path).append (by decide)).append hfault

theorem FileHasLines.says_loading (h : FileHasLines c content) :
    (loading c.scriptTemplate content).Says IsLine := by
  have hstart : IsLine ("Loading template: " ++ c.scriptTemplate) := .append (by decide) h.path
  exact (Run.says_record hstart).bind fun _ _ =>
    (Run.says_ofExcept fun e => h.isLine_message).recordFailure

/-- The nodes of a template that is loaded have lines for names, whatever its text is. The names of
elements have no white space, and so no line feed. -/
theorem FileHasLines.hasLines_of_loading (h : FileHasLines c content) {d : Template.Document}
    (hd : (loading c.scriptTemplate content).outcome = .ok d) :
    ∀ item ∈ d.listing, item.2.HasLines c := by
  rw [outcome_loading] at hd
  cases content with
  | error cause => cases hd
  | ok s =>
    have hparse : Template.Document.parse s = .ok d := by
      rw [Template.Document.ofFile] at hd
      cases hparse : Template.Document.parse s with
      | error f => rw [hparse] at hd; cases hd
      | ok d' => rw [hparse] at hd; exact congrArg Except.ok (Except.ok.inj hd)
    intro item hitem
    refine ⟨fun hfeed => ?_, h.of_document s d rfl hparse item hitem⟩
    exact absurd (Template.Document.isSpaceless_name_of_parse hparse item hitem _ hfeed) (by decide)

/-- **A run that loads its template** tells everything on lines if its inputs are lines. To these
belong the path of the template and the message of a fault in it. -/
theorem FileHasLines.says_loading_running (h : FileHasLines c content) {job : Generation.Job}
    (hjob : job.HasLines) (hconfig : job.config = c) :
    (loading c.scriptTemplate content >>= running job).Says IsLine := by
  subst hconfig
  exact h.says_loading.bind fun d hd => says_running hjob (h.hasLines_of_loading hd)

end

end Generator

end EntityScript
