import EntityScript.Yaml.Node
import EntityScript.Yaml.Scalar.Meaning

/-!
# Reading values from documents

A decoder reads a value of some type from a node of a document. Every scalar can be read as a text;
truth values and numbers are read from plain scalars. Where a list or a record is asked for, nothing
at all stands for an empty one.
-/

namespace EntityScript

namespace Yaml

/-- Reads a value from a node of a document, unless the node is of another shape. -/
abbrev Decoder (α : Type) := Document → Node → Option α

namespace Decoder

variable {α σ : Type}

/-! ### Scalars -/

/-- Reads a text. -/
def string : Decoder String := fun d n =>
  match d.resolve n with
  | .scalar _ _ text => some (String.ofList text)
  | _ => none

/-- The text of a plain scalar, or of a literal one that carries the tag. -/
def untyped (tag : String) : Decoder (List Char) := fun d n =>
  match d.resolve n with
  | .scalar _ .plain text => some text
  | .scalar t .literal text => if t = some tag.toList then some text else none
  | _ => none

/-- Reads a truth value. -/
def bool : Decoder Bool := fun d n => do
  boolOf? (← untyped "tag:yaml.org,2002:bool" d n)

/-- Reads an integer of 32 bits. -/
def int32 : Decoder Int32 := fun d n => do
  let i ← integerOf? 64 (← untyped "tag:yaml.org,2002:int" d n)
  if -0x80000000 ≤ i ∧ i < 0x80000000 then some (Int32.ofInt i) else none

/-- The name that a tag of the document itself gives. -/
def localName? : Option (List Char) → Option String
  | some ('!' :: name) => some (if name.isEmpty then "!" else String.ofList name)
  | _ => none

/-- Reads one of several names: as a text, or as a tag on nothing. -/
def oneOf (named : String → Option α) : Decoder α := fun d n =>
  match d.resolve n with
  | .scalar tag style text =>
    match localName? tag with
    | none => named (String.ofList text)
    | some name =>
      if style = .plain ∧ (text.isEmpty || isNullWord text) then named name else none
  | _ => none

/-! ### Lists -/

/-- The node is that of nothing at all. -/
def isNothing : Node → Bool
  | .scalar _ .plain text => text.isEmpty
  | _ => false

/-- Reads a sequence. -/
def list (read : Decoder α) : Decoder (List α) := fun d n =>
  match d.resolve n with
  | .sequence items => items.mapM (read d)
  | n => if isNothing n then some [] else none

/-! ### Records -/

/-- A field of a record: its names and how it is read into the record. -/
structure RecordField (σ : Type) where
  names : List String
  required : Bool
  read : Document → Node → σ → Option σ

/-- A field that a decoder reads and a setter stores. -/
def RecordField.of (names : List String) (read : Decoder α) (set : α → σ → σ) : RecordField σ :=
  ⟨names, false, fun d n r => (read d n).map (set · r)⟩

/-- A field that must not be missing. -/
def RecordField.require (f : RecordField σ) : RecordField σ :=
  { f with required := true }

/-- Reads the members of a mapping into the record; `seen` are the fields already read, by their
place in the list of fields. A member of another name is passed over. -/
def members (fields : List (RecordField σ)) (d : Document) (seen : List Nat) (r : σ) :
    List (Node × Node) → Option (σ × List Nat)
  | [] => some (r, seen)
  | (key, v) :: ms => do
    let name ← string d key
    match fields.findIdx? (·.names.contains name) with
    | none => members fields d seen r ms
    | some i =>
      if seen.contains i then none
      else
        let f ← fields[i]?
        let r ← f.read d v r
        members fields d (i :: seen) r ms

/-- Every required field is among those read. -/
def isComplete (fields : List (RecordField σ)) (seen : List Nat) : Bool :=
  fields.zipIdx.all fun (f, i) => !f.required || seen.contains i

/-- Reads a record by its fields; those that are missing stay as in `default`. -/
def record (fields : List (RecordField σ)) (default : σ) : Decoder σ := fun d n =>
  let read (ms : List (Node × Node)) : Option σ := do
    let (r, seen) ← members fields d [] default ms
    if isComplete fields seen then some r else none
  match d.resolve n with
  | .mapping ms => read ms
  | n => if isNothing n then read [] else none

/-! ### Texts -/

/-- Reads the document that a whole text writes. -/
def document (read : Decoder α) (d : Document) : Option α :=
  read d d.root

end Decoder

end Yaml

end EntityScript
