import EntityScript.Yaml.Cursor
import EntityScript.Yaml.Scalar.Quoted

/-!
# Anchors, tags and directives

The parts of a YAML text that begin with `&`, `*`, `!` and `%`. A tag is a handle with a suffix; a
directive can say which text a handle stands for. Inside tags, characters can be written as the
bytes of their UTF-8 form.
-/

namespace EntityScript

namespace Yaml

/-! ### Anchors -/

/-- The text can go on this way after a name. -/
def endsName : List Char → Bool
  | [] => true
  | c :: _ => isSeparator c || "?:,]\x7d%@`".toList.contains c

/-- Reads the name of an anchor or alias after its indicator. -/
def readName (c : Cursor) : Option (List Char × Cursor) :=
  let c := c.advance 1
  let name := c.span isNameChar
  let c := c.advance name.length
  if name.isEmpty || !endsName c.rest then none else some (name, c)

/-! ### Tags -/

/-- The character can be part of a tag. -/
def isTagChar (verbatim : Bool) (c : Char) : Bool :=
  isNameChar c || ";/?:@&=+$.!~*'()%".toList.contains c ||
    (verbatim && (c == ',' || c == '[' || c == ']'))

/-- The number of bytes of a character in UTF-8, by its first byte. -/
def sequenceLength? (byte : Nat) : Option Nat :=
  if byte < 0x80 then some 1
  else if 0xC0 ≤ byte ∧ byte < 0xE0 then some 2
  else if 0xE0 ≤ byte ∧ byte < 0xF0 then some 3
  else if 0xF0 ≤ byte ∧ byte < 0xF8 then some 4
  else none

/-- Reads a byte that is written as a percent sign and two digits. -/
def readByte? : List Char → Option (Nat × List Char)
  | '%' :: a :: b :: s => do
    let n ← hexValue? [a, b]
    some (n, s)
  | _ => none

/-- Reads `n` bytes that each continue a character. -/
def readContinuation? : Nat → List Char → Option (List Nat × List Char)
  | 0, s => some ([], s)
  | n + 1, s => do
    let (byte, s) ← readByte? s
    if 0x80 ≤ byte ∧ byte < 0xC0 then
      let (bytes, s) ← readContinuation? n s
      some (byte :: bytes, s)
    else none

/-- Reads the bytes of one character. -/
def readBytes? (s : List Char) : Option (List Nat × List Char) := do
  let (byte, s) ← readByte? s
  let n ← sequenceLength? byte
  let (bytes, s) ← readContinuation? (n - 1) s
  some (byte :: bytes, s)

/-- The bytes of a character in UTF-8. -/
def bytesOfChar (c : Char) : List Nat :=
  (String.singleton c).toUTF8.toList.map UInt8.toNat

/-- Reads the characters of a tag, as bytes. -/
def readTagBytes (verbatim : Bool) : Nat → List Char → Option (List Nat × List Char)
  | 0, s => some ([], s)
  | fuel + 1, s =>
    match s with
    | [] => some ([], [])
    | c :: rest =>
      if !isTagChar verbatim c then some ([], s)
      else do
        let (bytes, rest) ← if c = '%' then readBytes? s else some (bytesOfChar c, rest)
        let (more, rest) ← readTagBytes verbatim fuel rest
        some (bytes ++ more, rest)

/-- The text of bytes in UTF-8; bytes that are none stand for themselves, as code points. -/
def textOfTag (bytes : List Nat) : List Char :=
  match String.fromUTF8? ⟨(bytes.map UInt8.ofNat).toArray⟩ with
  | some s => s.toList
  | none => bytes.map Char.ofNat

/-- Reads the characters of a tag after `before`, which belongs to it already. -/
def readTagText (verbatim : Bool) (before : List Char) (c : Cursor) :
    Option (List Char × Cursor) := do
  let (bytes, rest) ← readTagBytes verbatim c.rest.length c.rest
  if before.isEmpty && bytes.isEmpty then none
  else some (before.drop 1 ++ textOfTag bytes, c.advance (c.rest.length - rest.length))

/-- Reads what may be the handle of a tag: a word between exclamation marks, of which the second
one may be missing. -/
def readHandle (c : Cursor) : Option (List Char × Cursor) :=
  if !startsWith '!' c.rest then none
  else
    let c := c.advance 1
    let word := c.span isNameChar
    let c := c.advance word.length
    if startsWith '!' c.rest then some ('!' :: word ++ ['!'], c.advance 1)
    else some ('!' :: word, c)

/-- The text is a handle that stands between exclamation marks. -/
def isNamedHandle (handle : List Char) : Bool :=
  1 < handle.length && handle.getLast? == some '!'

/-- Reads a tag up to its end: its handle and its suffix. -/
def readTagParts (c : Cursor) : Option ((List Char × List Char) × Cursor) :=
  match c.rest with
  -- A tag in angle brackets is written out and has no handle.
  | '!' :: '<' :: _ => do
    let (text, c) ← readTagText true [] (c.advance 2)
    if startsWith '>' c.rest then some (([], text), c.advance 1) else none
  | _ => do
    let (handle, c) ← readHandle c
    if isNamedHandle handle then
      let (suffix, c) ← readTagText false [] c
      some ((handle, suffix), c)
    else
      let (suffix, c) ← readTagText false handle c
      some (if suffix.isEmpty then ([], ['!']) else (['!'], suffix), c)

/-- Reads a tag. A separator follows it, or inside brackets a comma. -/
def readTag (inFlow : Bool) (c : Cursor) : Option ((List Char × List Char) × Cursor) := do
  let (tag, c) ← readTagParts c
  if endsWord c.rest || (inFlow && startsWith ',' c.rest) then some (tag, c) else none

/-! ### Directives -/

/-- A directive. -/
inductive Directive where
  | version (major minor : Nat)
  | tag (handle replacement : List Char)
deriving DecidableEq

/-- Reads a number of at most nine digits. -/
def readVersionNumber (c : Cursor) : Option (Nat × Cursor) :=
  let digits := c.span Char.isDigit
  if digits.isEmpty || 9 < digits.length then none
  else some (digits.foldl (fun n d => 10 * n + (d.toNat - 48)) 0, c.advance digits.length)

/-- Reads the version that a directive gives. -/
def readVersion (c : Cursor) : Option (Directive × Cursor) := do
  let (major, c) ← readVersionNumber (c.skip isGap)
  if startsWith '.' c.rest then
    let (minor, c) ← readVersionNumber (c.advance 1)
    some (.version major minor, c)
  else none

/-- Reads the handle and its replacement that a directive gives. -/
def readTagDirective (c : Cursor) : Option (Directive × Cursor) := do
  let (handle, c) ← readHandle (c.skip isGap)
  if handle ≠ ['!'] ∧ !isNamedHandle handle then none
  else if !c.atGap then none
  else
    let (replacement, c) ← readTagText true [] (c.skip isGap)
    if endsWord c.rest then some (.tag handle replacement, c) else none

/-- Reads a directive and the rest of its line. -/
def readDirective (c : Cursor) : Option (Directive × Cursor) := do
  let c := c.advance 1
  let name := c.span isNameChar
  let c := c.advance name.length
  if !endsWord c.rest then none
  else
    let (directive, c) ←
      if name = "YAML".toList then readVersion c
      else if name = "TAG".toList then readTagDirective c
      else none
    let c := (c.skip isGap).skipComment
    if endsLine c.rest then some (directive, c.skipBreak) else none

end Yaml

end EntityScript
