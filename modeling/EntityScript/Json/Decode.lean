import EntityScript.Json.Draft

/-!
# Reading values from drafts

A decoder reads a value of some type from a draft, or says what fault it meets first. Records are
given by their fields: each has one or more names and a decoder that updates the record. A record
is read from an object, of which it skips the members it does not know, or from an array that
gives its fields in order.
-/

namespace EntityScript

namespace Json

/-- Reads a value from a draft. -/
abbrev Decoder (α : Type) := Draft → Except Fault α

/-- The fault of a draft of another shape than the one asked for. Numbers and strings are read
before they are found to be of the wrong shape. -/
def Draft.wrongShape : Draft → Fault
  | .broken b => b.reading
  | .string none => .malformed
  | .number n => if n.isOutOfRange then .malformed else .mismatch
  | _ => .mismatch

namespace Decoder

variable {α β σ : Type}

/-! ### Scalars -/

/-- Reads a string. -/
def string : Decoder String
  | .string (some s) => .ok s
  | d => .error d.wrongShape

/-- Reads a truth value. -/
def bool : Decoder Bool
  | .bool b => .ok b
  | d => .error d.wrongShape

/-- Reads an integer of 32 bits. -/
def int32 : Decoder Int32
  | .number n =>
    match n.int? with
    | some i => if -0x80000000 ≤ i && i < 0x80000000 then .ok (Int32.ofInt i) else .error .mismatch
    | none => .error (Draft.wrongShape (.number n))
  | d => .error d.wrongShape

/-- Reads null. -/
def unit : Decoder Unit
  | .null => .ok ()
  | d => .error d.wrongShape

/-- Reads null as nothing, and anything else with the given decoder. -/
def option (read : Decoder α) : Decoder (Option α)
  | .null => .ok none
  | d => (read d).map some

/-- Reads one of several names: as a string, or as an object whose only member has that name and
the value null. -/
def oneOf (named : String → Option α) : Decoder α
  | .string (some s) =>
    match named s with
    | some a => .ok a
    | none => .error .mismatch
  | .object [] none => .error .malformed
  | .object [] (some b) => .error b.naming
  | .object ((none, _) :: _) _ => .error .malformed
  | .object ((some key, v) :: members) ending =>
    match named key with
    | none => .error .mismatch
    | some a => do
      unit v
      match members, ending with
      | [], none => .ok a
      | [], some b => .error b.naming
      | _ :: _, _ => .error .malformed
  | .broken b => .error b.naming
  | _ => .error .malformed

/-! ### Lists -/

/-- Reads the drafts of a list one after the other. -/
def items (read : Decoder α) : List Draft → Except Fault (List α)
  | [] => .ok []
  | d :: ds => do
    let a ← read d
    let as ← items read ds
    .ok (a :: as)

/-- Reads an array. -/
def list (read : Decoder α) : Decoder (List α)
  | .array ds ending => do
    let as ← items read ds
    match ending with
    | none => .ok as
    | some b => .error b.reading
  | d => .error d.wrongShape

/-! ### Records -/

/-- A field of a record: its names and how it is read into the record. -/
structure RecordField (σ : Type) where
  names : List String
  required : Bool
  read : Draft → σ → Except Fault σ

/-- A field that a decoder reads and a setter stores. -/
def RecordField.of (names : List String) (read : Decoder α) (set : α → σ → σ) : RecordField σ :=
  ⟨names, false, fun d r => (read d).map (set · r)⟩

/-- A field that must not be missing. -/
def RecordField.require (f : RecordField σ) : RecordField σ :=
  { f with required := true }

/-- Reads the members of an object into the record; `seen` are the fields already read, by their
place in the list of fields. -/
def members (fields : List (RecordField σ)) (seen : List Nat) (r : σ) :
    List (Option String × Draft) → Except Fault (σ × List Nat)
  | [] => .ok (r, seen)
  | (none, _) :: _ => .error .malformed
  | (some key, d) :: ms =>
    match fields.findIdx? (·.names.contains key) with
    | none => do
      d.skip
      members fields seen r ms
    | some i =>
      if seen.contains i then .error .mismatch
      else match fields[i]? with
        | none => .error .mismatch
        | some f => do
          let r ← f.read d r
          members fields (i :: seen) r ms

/-- Every required field is among those read. -/
def isComplete (fields : List (RecordField σ)) (seen : List Nat) : Bool :=
  fields.zipIdx.all fun (f, i) => !f.required || seen.contains i

/-- Reads the items of an array as the fields of the record, in order. -/
def positional (ending : Option Break) : List (RecordField σ) → List Draft → σ → Except Fault σ
  | [], [], r =>
    match ending with
    | none => .ok r
    | some b => .error b.reading
  | [], _ :: _, _ => .error .malformed
  | f :: fs, [], r =>
    match ending with
    | none => if (f :: fs).any (·.required) then .error .mismatch else .ok r
    | some b => .error b.reading
  | f :: fs, d :: ds, r => do
    let r ← f.read d r
    positional ending fs ds r

/-- Reads a record by its fields; those that are missing stay as in `default`. -/
def record (fields : List (RecordField σ)) (default : σ) : Decoder σ
  | .object ms ending => do
    let (r, seen) ← members fields [] default ms
    match ending with
    | some b => .error b.reading
    | none => if isComplete fields seen then .ok r else .error .mismatch
  | .array ds ending => positional ending fields ds default
  | d => .error d.wrongShape

/-! ### Texts -/

/-- Reads a whole text. Only after the value is it seen whether anything follows. -/
def text (read : Decoder α) (s : String) : Except Fault α := do
  let document := Document.ofText s.toList
  let a ← read document.root
  if document.hasTrailing then .error .malformed else .ok a

/-- Reads a complete value. -/
def value (read : Decoder α) (v : Value) : Except Fault α :=
  read v.draft

/-- The value that a whole text writes. -/
def wholeValue (s : String) : Except Fault Value :=
  text (Draft.value depthLimit) s

end Decoder

end Json

end EntityScript
