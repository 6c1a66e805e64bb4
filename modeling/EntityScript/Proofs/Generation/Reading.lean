import EntityScript.Proofs.Filter.Disjunction
import EntityScript.Proofs.Generation.Steps

/-!
# Reading a template

What a template says, without a log, a buffer or an order of execution: `Node.pieces` lists the
texts that a node stands for, each with the records that its slugs may read from, and
`Piece.expansion` gives what one such text expands to. A document reads as the expansions of its
pieces put together, or as the first failure among them (`Document.reading`).

The pieces of a list of nodes are the pieces of its nodes in order. An entity node has the pieces
of its children once for every entity of the whole list that is kept, with that entity as the
current one, whichever was current outside. An attribute list has its fragment once for every
attribute of the current entity that is kept.

**Main statement**: a generator whose flag is down gives exactly the reading of the template
(`Generator.generateWith_eq_reading`).
-/

namespace EntityScript

open Metadata (Attribute Entity HasProperties Scope)
open Template (Node Passage Spelling passages)

namespace Generation

/-! ### Expansions -/

/-- The text of the property of exactly this name, read off the table. -/
def propertyText? {ρ : Type} [HasProperties ρ] (record : ρ) (languageCode : Int32) (name : String) :
    Option String :=
  ((HasProperties.table (ρ := ρ)).find? (·.name == name)).map fun p =>
    (p.value record).render languageCode

/-- What an attribute's slug inserts for the text of its property. -/
def attributeText (a : Attribute) (w : Spelling) (value : String) : String :=
  match w.modifier with
  | .dataType => if w.property = "attributetype" then a.scriptType.name else value
  | .webApi => if w.property = "schemaname" then a.webApiName else value
  | m => m.apply value

namespace Piece

/-- What stands in for a slug, if there is a record for it to read from; inside, nothing if the
record has no property of the name. -/
def insertion? (c : Config) (p : Piece) (w : Spelling) : Option (Option String) :=
  match w.scope with
  | .ent => p.currentEntity.map fun e =>
    (propertyText? e c.languageCode w.property).map w.modifier.apply
  | .attr => p.currentAttribute.map fun a =>
    (propertyText? a c.languageCode w.property).map (attributeText a w)

/-- A slug reads as what stands in for it, as it is written if there is no record for it, and as a
failure if the record has no such property. -/
def slugReading (c : Config) (p : Piece) (w : Spelling) : Except Failure (List Char) :=
  match p.insertion? c w with
  | none => .ok w.toList
  | some none => .error (.slugResolution w)
  | some (some text) => .ok text.toList

/-- A passage outside slugs reads as itself. -/
def passageReading (c : Config) (p : Piece) : Passage → Except Failure (List Char)
  | .plain ch => .ok [ch]
  | .slug w => p.slugReading c w

/-- The readings of all passages put together, or the first failure among them. -/
def expansion (c : Config) (p : Piece) : Except Failure String :=
  (fun texts => String.ofList texts.flatten) <$>
    (passages (replaceProjectSlugs c p.text.toList)).mapM (p.passageReading c)

end Piece

/-! ### Pieces of a template -/

/-- The entities of the list that no rule matches and that are of the types asked for. -/
def keptEntities (c : Config) (es : List Entity) : List Entity :=
  es.filter fun e =>
    c.entityFilters.rules.all (!·.matchesName e.logicalName) && c.entityTypes.includes e

/-- The attributes that no rule matches, the virtual ones only if they are asked for. -/
def keptAttributes (c : Config) (as : List Attribute) : List Attribute :=
  as.filter fun a =>
    c.attributeFilters.rules.all (!·.matchesName a.schemaName) &&
      (!a.isVirtual || c.includeVirtualAttributes)

end Generation

namespace Template

open Generation

mutual

/-- The pieces of a node, given the whole list of entities and the current one. -/
def Node.pieces (c : Config) (es : List Entity) (current : Option Entity) : Node → List Piece
  | .literal text => [⟨text, current, none⟩]
  | .entity children => (keptEntities c es).flatMap fun e => Node.piecesOfAll c es (some e) children
  | .attributeList fragment =>
    match current, fragment with
    | some e, some text => (keptAttributes c e.attributes).map fun a => ⟨text, some e, some a⟩
    | _, _ => []
  | .container children => Node.piecesOfAll c es current children
  | .ignored _ => []

/-- The pieces of nodes in their order. -/
def Node.piecesOfAll (c : Config) (es : List Entity) (current : Option Entity) :
    List Node → List Piece
  | [] => []
  | n :: ns => n.pieces c es current ++ Node.piecesOfAll c es current ns

end

/-- The pieces of a template, which stands outside every entity. -/
def Document.pieces (c : Config) (es : List Entity) (d : Document) : List Piece :=
  Node.piecesOfAll c es none d.nodes

/-- A template reads as the expansions of its pieces put together, or as the first failure. -/
def Document.reading (c : Config) (es : List Entity) (d : Document) : Except Failure String :=
  String.join <$> (d.pieces c es).mapM (Piece.expansion c)

end Template

namespace Generation

/-! ### Expanding a text gives its expansion -/

/-- A scope gives the text of the property that the table has under the name. It renders all
properties when it is made, the reading only the one that is asked for. -/
theorem get?_scope_of {ρ : Type} [HasProperties ρ] (record : ρ) (languageCode : Int32)
    (name : String) :
    (Scope.of record languageCode).get? name = propertyText? record languageCode name := by
  simp only [Scope.get?, Scope.of, Metadata.properties, List.find?_map, Option.map_map,
    propertyText?]
  rfl

/-- The value of an attribute's slug is what the reading inserts: the two modifiers that need the
attribute itself find it in the scope. -/
theorem attributeValue_scope_of (a : Attribute) (languageCode : Int32) (w : Spelling) :
    attributeValue (Scope.of a languageCode) w =
      (propertyText? a languageCode w.property).map (attributeText a w) := by
  rw [attributeValue, get?_scope_of]
  congr 1
  funext value
  simp only [attributeText, Scope.of]
  cases w.modifier <;> simp [Template.Modifier.apply]

/-- The scopes of a piece give a slug the value that the reading inserts, in both kinds of scope and
also where there is no record for it. -/
theorem value?_scopes (c : Config) (p : Piece) (w : Spelling) :
    (p.scopes c).value? w = p.insertion? c w := by
  simp only [Scopes.value?, Piece.scopes, Piece.insertion?, Option.map_map]
  cases w.scope with
  | ent => simp only [Function.comp_def, entityValue, get?_scope_of]
  | attr => simp only [Function.comp_def, attributeValue_scope_of]

theorem outcome_expandSlug (c : Config) (p : Piece) (w : Spelling) :
    (expandSlug (p.scopes c) w).outcome = p.slugReading c w := by
  simp only [expandSlug, Piece.slugReading, value?_scopes]
  rcases p.insertion? c w with _ | _ | text <;> rfl

/-- Passages are expanded to their readings put together, or to the first failure among them. The
induction is on the passages, and in each step the failure of the first one comes before the
rest. -/
theorem outcome_expandPassages (c : Config) (p : Piece) (ps : List Passage) :
    (expandPassages (p.scopes c) ps).outcome = List.flatten <$> ps.mapM (p.passageReading c) := by
  induction ps with
  | nil => rfl
  | cons q ps ih =>
    cases q with
    | plain ch =>
      simp only [expandPassages, Run.outcome_bind, ih, List.mapM_cons, Piece.passageReading]
      cases ps.mapM (p.passageReading c) <;> rfl
    | slug w =>
      simp only [expandPassages, Run.outcome_bind, ih, outcome_expandSlug, List.mapM_cons,
        Piece.passageReading]
      cases p.slugReading c w with
      | error e => rfl
      | ok text => cases ps.mapM (p.passageReading c) <;> rfl

/-- A piece is expanded to its expansion: the slugs of the project are replaced first, and the
passages are those of the text after that. -/
theorem outcome_run_piece (c : Config) (p : Piece) :
    ((Step.piece p).run c).outcome = p.expansion c := by
  simp only [Step.run, expand, Run.outcome_bind, outcome_expandPassages, Piece.expansion]
  cases (passages (replaceProjectSlugs c p.text.toList)).mapM (p.passageReading c) <;> rfl

/-! ### Performing steps gives the expansions of their pieces -/

/-- A step that records a message and does nothing else. -/
def Step.isNote : Step → Bool
  | note _ _ => true
  | piece _ | halt _ => false

/-- Notes have no part in how steps end. They give no text and cannot fail, so they can be taken out
wherever they stand. -/
theorem outcome_runSteps_filter (c : Config) (ss : List Step) :
    (runSteps c (ss.filter (!·.isNote))).outcome = (runSteps c ss).outcome := by
  induction ss with
  | nil => rfl
  | cons s ss ih =>
    cases s with
    | note level message =>
      rw [runSteps_note, Run.outcome_bind, ← ih]
      rfl
    | piece p =>
      rw [List.filter_cons_of_pos rfl, runSteps_cons, runSteps_cons]
      simp only [Run.outcome_bind, ih]
    | halt e =>
      rw [List.filter_cons_of_pos rfl, runSteps_cons, runSteps_cons]
      simp only [Run.outcome_bind, ih]

/-- Pieces one after the other give their expansions put together, or the first failure. The output
of a walk is nothing else, once the notes are taken out. -/
theorem outcome_runSteps_pieces (c : Config) (ps : List Piece) :
    (runSteps c (ps.map .piece)).outcome = String.join <$> ps.mapM (Piece.expansion c) := by
  rw [runSteps, Run.outcome_concat, List.map_map, List.mapM_map]
  congr 2
  funext p
  exact outcome_run_piece c p

/-! ### The steps of a job whose flag is down -/

namespace Job

variable {job : Job}

/-- Inside of an entity, an attribute list has a step for each of its pieces: the attributes that
the walk includes are those that the reading keeps. -/
theorem stepsOfList_eq_pieces (job : Job) (e : Entity) (fragment : Option String) :
    job.stepsOfList (some e) fragment =
      ((Node.attributeList fragment).pieces job.config job.entities (some e)).map .piece := by
  cases fragment with
  | none => rfl
  | some fragment =>
    simp only [stepsOfList, stepsListing, Node.pieces, keptAttributes,
      ← Config.includesAttribute_eq, List.map_map]
    rfl

/-- Apart from notes, the steps of an attribute list are its pieces, also outside of an entity,
where there is one note and no piece. -/
theorem filter_stepsOfList (job : Job) (current : Option Entity) (fragment : Option String) :
    (job.stepsOfList current fragment).filter (!·.isNote) =
      ((Node.attributeList fragment).pieces job.config job.entities current).map .piece := by
  cases current with
  | none => rfl
  | some e =>
    rw [stepsOfList_eq_pieces]
    refine List.filter_eq_self.mpr fun s hs => ?_
    obtain ⟨p, -, rfl⟩ := List.mem_map.mp hs
    rfl

mutual

/-- Apart from notes, the steps of a node are its pieces. What a node notes depends on records that
give no piece, so the notes have to be taken out first. -/
theorem filter_stepsOf (h : job.cancelled = false) (current : Option Entity) : ∀ n : Node,
    (job.stepsOf current n).filter (!·.isNote) =
      (n.pieces job.config job.entities current).map .piece
  | .literal text => rfl
  | .entity children => by
    have hnotes : ∀ messages : List String,
        (messages.map (Step.note .verbose)).filter (!·.isNote) = [] := by simp [Step.isNote]
    -- Of the steps for an entity that is kept, the notes on its properties fall away.
    rw [stepsOf, filter_information_cons fun _ => rfl,
      filter_flatMap_stepsVisiting h fun _ => rfl, Node.pieces, List.map_flatMap]
    simp only [List.filter_append, hnotes, List.nil_append, filter_stepsOfAll h _ children,
      keptEntities, ← Config.includesEntity_eq]
  | .attributeList fragment => by
    rw [stepsOf, filter_information_cons fun _ => rfl, filter_stepsOfList]
  | .container children => by
    rw [stepsOf, filter_information_cons fun _ => rfl, Node.pieces,
      filter_stepsOfAll h current children]
  | .ignored name => rfl

/-- Apart from notes, the steps of nodes are their pieces. They follow one another in the order of
the nodes. -/
theorem filter_stepsOfAll (h : job.cancelled = false) (current : Option Entity) :
    ∀ ns : List Node,
      (job.stepsOfAll current ns).filter (!·.isNote) =
        (Node.piecesOfAll job.config job.entities current ns).map .piece
  | [] => rfl
  | n :: ns => by
    rw [stepsOfAll, List.filter_append, Node.piecesOfAll, List.map_append,
      filter_stepsOf h current n, filter_stepsOfAll h current ns]

end

/-- A walk whose flag is down ends as the template reads. What it tells on its way, and the order in
which it looks at entities that it passes over, has no part in this. -/
theorem outcome_walk (h : job.cancelled = false) (d : Template.Document) :
    (job.walk d).outcome = d.reading job.config job.entities := by
  rw [walk_eq_runSteps, ← outcome_runSteps_filter, filter_stepsOfAll h, outcome_runSteps_pieces]
  rfl

end Job

end Generation

/-! ### Runs of a generator -/

namespace Generator

/-- A run whose flag is down, or that has none, ends as the template reads. Claims on what a run
gives start from here and speak of the reading. -/
theorem outcome_running_eq_reading {g : Generator} (h : g.cancelled = false)
    (d : Template.Document) (es : List Entity) :
    (running (g.job es) d).outcome = d.reading g.config es := by
  have hdown : (g.job es).cancelled = false := (g.cancelled_job es).trans h
  exact (outcome_running _ d).trans (Generation.Job.outcome_walk hdown d)

/-- **A run gives the reading of its template**: if the flag is down, the output is the expansions
of all pieces put together in their order, and the failure is that of the first piece that fails.
Beside its output, a result carries the log that the generator has after the run. -/
theorem generateWith_eq_reading (g : Generator) (d : Template.Document) (es : List Entity)
    (h : g.cancelled = false) :
    (g.generateWith d es).2 =
      (d.reading g.config es).map fun output => ⟨output, (g.generateWith d es).1.log.text⟩ := by
  rw [generateWith_snd, outcome_running_eq_reading h]

/-- Inside two entity nodes the slugs read from the inner entity, after the inner node from the
outer one again; an entity that a rule matches has no part in either. -/
theorem generateWith_eq_reading_nested :
    (new {}).cancelled = false ∧
      ((new {}).generateWith
        ⟨[.literal "\x7b#module_name#\x7d: ",
          .entity [.literal "\x7b#ent (logicalname)#\x7d(",
            .entity [.attributeList
              (some "\x7b#ent upper(logicalname)#\x7d.\x7b#attr (schemaname)#\x7d;")],
            .literal "\x7b#ent title(logicalname)#\x7d) "]]⟩
        [{ logicalName := "a", attributes := [{ schemaName := "X" }, { schemaName := "Y" }] },
          { logicalName := "syncerror", attributes := [{ schemaName := "Z" }] },
          { logicalName := "b", attributes := [{ schemaName := "VersionNumber" }] }]).2.toOption =
        some ⟨"MyProject: a(A.X;A.Y;A) b(A.X;A.Y;B) ", "Logging has been disabled.\n"⟩ := by
  refine ⟨rfl, ?_⟩
  rw [generateWith_eq_reading _ _ _ rfl]
  decide +kernel

end Generator

end EntityScript
