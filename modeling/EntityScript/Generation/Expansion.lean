import EntityScript.Config.Basic
import EntityScript.Generation.Run
import EntityScript.Metadata.Naming
import EntityScript.Metadata.Property

/-!
# Expansion

A text is expanded in two steps. First the slugs of the project are replaced by its texts. Then
every slug of a scope that is active is replaced by the value it asks for; the others stay as they
are written. A value is not looked at again.
-/

namespace EntityScript

namespace Generation

open Metadata (Attribute Entity Scope)
open Template (Passage Spelling passages)

/-! ### Slugs of the project -/

/-- The slug for the name of the project. -/
def moduleNameSlug : String :=
  "\x7b#module_name#\x7d"

/-- The slug for the notes of the project. -/
def moduleNotesSlug : String :=
  "\x7b#module_notes#\x7d"

/-- The text with the slugs of the project replaced, that for its name first. -/
def replaceProjectSlugs (c : Config) (s : List Char) : List Char :=
  Text.replace moduleNotesSlug.toList c.moduleNotes.toList
    (Text.replace moduleNameSlug.toList c.moduleName.toList s)

/-! ### Slugs of records -/

/-- The records that slugs may read from. -/
structure Scopes where
  entityScope : Option (Scope Entity) := none
  attributeScope : Option (Scope Attribute) := none

/-- The value of an entity's slug, if the entity has the property. -/
def entityValue (scope : Scope Entity) (w : Spelling) : Option String :=
  (scope.get? w.property).map w.modifier.apply

/-- The value of an attribute's slug, if the attribute has the property. Two modifiers have a
meaning of their own on one property each. -/
def attributeValue (scope : Scope Attribute) (w : Spelling) : Option String :=
  (scope.get? w.property).map fun value =>
    if w.modifier = .dataType ∧ w.property = "attributetype" then scope.record.scriptType.name
    else if w.modifier = .webApi ∧ w.property = "schemaname" then scope.record.webApiName
    else w.modifier.apply value

/-- The value of a slug, if its scope is active; inside, none if the record has no such
property. -/
def Scopes.value? (scopes : Scopes) (w : Spelling) : Option (Option String) :=
  match w.scope with
  | .ent => scopes.entityScope.map (entityValue · w)
  | .attr => scopes.attributeScope.map (attributeValue · w)

/-- The message for a slug that is replaced. -/
def matchMessage (w : Spelling) (value : String) : String :=
  "Match: " ++ String.ofList w.toList ++ ", Property Name: " ++ w.property ++
    ", Property Value: " ++ value

/-- The text that stands for a slug. -/
def expandSlug (scopes : Scopes) (w : Spelling) : Run (List Char) :=
  match scopes.value? w with
  | none => pure w.toList
  | some none => .fail (.slugResolution w)
  | some (some value) => do
    .record .verbose (matchMessage w value)
    pure value.toList

/-- The text that stands for the passages. -/
def expandPassages (scopes : Scopes) : List Passage → Run (List Char)
  | [] => pure []
  | .plain c :: ps => do
    let rest ← expandPassages scopes ps
    pure (c :: rest)
  | .slug w :: ps => do
    let value ← expandSlug scopes w
    let rest ← expandPassages scopes ps
    pure (value ++ rest)

/-- The text that a text of the template stands for. -/
def expand (c : Config) (scopes : Scopes) (text : String) : Run String := do
  let expanded ← expandPassages scopes (passages (replaceProjectSlugs c text.toList))
  pure (String.ofList expanded)

end Generation

end EntityScript
