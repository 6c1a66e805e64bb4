import EntityScript.Yaml.Scalar.Gap

/-!
# Block scalars

A literal or folded scalar has a header and then indented lines. The header can give the
indentation, and what becomes of the line ends behind the text. In a folded scalar a single line
end between two lines that do not start with blanks is a space.
-/

namespace EntityScript

namespace Yaml

/-! ### Header -/

/-- What becomes of the line ends behind the text. -/
inductive Chomping where
  /-- All are dropped. -/
  | strip
  /-- The first one is kept. -/
  | clip
  /-- All are kept. -/
  | keep
deriving DecidableEq

/-- The header of a block scalar. -/
structure BlockHeader where
  chomping : Chomping
  /-- The indentation beyond that of the parent. -/
  increment : Option Nat

/-- The chomping that a character stands for. -/
def chompingOf? : List Char → Option Chomping
  | '+' :: _ => some .keep
  | '-' :: _ => some .strip
  | _ => none

/-- Reads an indentation, if there is one; it must not be zero. -/
def readIncrement (c : Cursor) : Option (Option Nat × Cursor) :=
  match c.rest with
  | d :: _ =>
    if d = '0' then none
    else if d.isDigit then some (some (d.toNat - 48), c.advance 1)
    else some (none, c)
  | [] => some (none, c)

/-- Reads the parts of the header, in either order. -/
def readHeader (c : Cursor) : Option (BlockHeader × Cursor) :=
  match chompingOf? c.rest with
  | some chomping => do
    let (increment, c) ← readIncrement (c.advance 1)
    some (⟨chomping, increment⟩, c)
  | none => do
    let (increment, c) ← readIncrement c
    match increment, chompingOf? c.rest with
    | some _, some chomping => some (⟨chomping, increment⟩, c.advance 1)
    | _, _ => some (⟨.clip, increment⟩, c)

/-- Reads the rest of the line of the header: blanks and perhaps a comment. -/
def finishLine (c : Cursor) : Option Cursor :=
  let c := (c.skip isGap).skipComment
  if endsLine c.rest then some c.skipBreak else none

/-! ### Lines -/

/-- The place after the spaces of the indentation. -/
def skipIndentation (indent : Option Nat) (c : Cursor) : Cursor :=
  let spaces := c.span (· == ' ')
  match indent with
  | none => c.advance spaces.length
  | some n => c.advance (min spaces.length (n - c.column))

/-- Empty lines that have been read. -/
structure EmptyLines where
  /-- The line ends. -/
  breaks : List Char
  /-- The deepest indentation among the lines, the next one with text included. -/
  deepest : Nat

/-- Reads empty lines, and the indentation of the line after them. No tab may stand in the
indentation. -/
def readEmptyLinesWithin (indent : Option Nat) :
    Nat → EmptyLines → Cursor → Option (EmptyLines × Cursor)
  | 0, e, c => some (e, c)
  | fuel + 1, e, c =>
    let c := skipIndentation indent c
    let e := { e with deepest := max e.deepest c.column }
    -- Where the indentation is still to be found, any column may belong to it.
    let inIndentation := match indent with
      | none => true
      | some n => c.column < n
    if inIndentation && startsWith '\t' c.rest then none
    else if c.atBreak then
      readEmptyLinesWithin indent fuel { e with breaks := e.breaks ++ c.breakText } c.nextLine
    else some (e, c)

/-- Reads empty lines, and the indentation of the line after them. -/
def readEmptyLines (indent : Option Nat) (c : Cursor) : Option (EmptyLines × Cursor) :=
  readEmptyLinesWithin indent (c.rest.length + 1) ⟨[], 0⟩ c

/-- What has been read of a block scalar. -/
structure BlockText where
  text : List Char := []
  /-- The end of the latest line with text. -/
  lineEnd : List Char := []
  /-- The ends of the empty lines since. -/
  emptyLines : List Char := []
  /-- The latest line with text starts with a blank. -/
  startsBlank : Bool := false

/-- The line ends between the text so far and a line that starts with a blank or does not. -/
def BlockText.separation (b : BlockText) (folded startsBlank : Bool) : List Char :=
  if folded && b.lineEnd.head? == some '\n' && !b.startsBlank && !startsBlank then
    if b.emptyLines.isEmpty then [' '] else b.emptyLines
  else b.lineEnd ++ b.emptyLines

/-- Reads lines as long as they have the indentation. -/
def readLinesWithin (folded : Bool) (indent : Nat) :
    Nat → BlockText → Cursor → Option (BlockText × Cursor)
  | 0, b, c => some (b, c)
  | fuel + 1, b, c =>
    if c.column ≠ indent ∨ c.rest.isEmpty then some (b, c)
    else do
      let startsBlank := c.atGap
      let line := c.span (!isBreak ·)
      -- Only now is it known that more text follows the line ends read before.
      let text := b.text ++ b.separation folded startsBlank ++ line
      let c := c.advance line.length
      let lineEnd := c.breakText
      let (e, c) ← readEmptyLines (some indent) c.skipBreak
      readLinesWithin folded indent fuel ⟨text, lineEnd, e.breaks, startsBlank⟩ c

/-- The text with the line ends that the chomping leaves. -/
def BlockText.chomp (b : BlockText) : Chomping → List Char
  | .strip => b.text
  | .clip => b.text ++ b.lineEnd
  | .keep => b.text ++ b.lineEnd ++ b.emptyLines

/-- Reads a block scalar from its indicator on; `margin` is the least column that its lines can
have. -/
def readBlock (folded : Bool) (margin : Nat) (c : Cursor) : Option (List Char × Cursor) := do
  let (header, c) ← readHeader (c.advance 1)
  let c ← finishLine c
  let given := header.increment.map fun n => margin - 1 + n
  let (e, c) ← readEmptyLines given c
  -- Without a hint the indentation is that of the first line with text.
  let indent := given.getD (max e.deepest (max margin 1))
  let (b, c) ← readLinesWithin folded indent (c.rest.length + 1) { emptyLines := e.breaks } c
  some (b.chomp header.chomping, c)

end Yaml

end EntityScript
