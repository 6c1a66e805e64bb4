/-!
# Cursors

A cursor is a place in a YAML text: what is still to be read, and the line and column reached. The
classes of characters on which the layout of a text depends are here too.
-/

namespace EntityScript

namespace Yaml

/-! ### Characters -/

/-- The character ends a line. -/
def isBreak (c : Char) : Bool :=
  c == '\n' || c == '\r' || c.toNat == 0x85 || c.toNat == 0x2028 || c.toNat == 0x2029

/-- The character is a space or a tab. -/
def isGap (c : Char) : Bool :=
  c == ' ' || c == '\t'

/-- The character separates words: a space, a tab or the end of a line. -/
def isSeparator (c : Char) : Bool :=
  isGap c || isBreak c

/-- The character can be part of the name of an anchor, a directive or a tag handle. -/
def isNameChar (c : Char) : Bool :=
  c.isAlphanum || c == '_' || c == '-'

/-- The byte order mark. -/
def byteOrderMark : Char :=
  Char.ofNat 0xFEFF

/-- The character may stand in a text. -/
def isAllowed (c : Char) : Bool :=
  let n := c.toNat
  n == 9 || n == 10 || n == 13 || (0x20 ≤ n && n ≤ 0x7E) || n == 0x85 ||
    (0xA0 ≤ n && n ≤ 0xFFFD) || 0x10000 ≤ n

/-- The text ends, or goes on with a separator. -/
def endsWord : List Char → Bool
  | [] => true
  | c :: _ => isSeparator c

/-- The text ends, or goes on with the end of the line. -/
def endsLine : List Char → Bool
  | [] => true
  | c :: _ => isBreak c

/-- The text goes on with the character. -/
def startsWith (c : Char) (s : List Char) : Bool :=
  s.head? == some c

/-! ### Cursors -/

/-- A place in a text. -/
structure Cursor where
  /-- What is still to be read. -/
  rest : List Char
  /-- The number of characters read. -/
  index : Nat := 0
  line : Nat := 0
  column : Nat := 0

namespace Cursor

/-- The place some characters further on in the same line. -/
def advance (c : Cursor) (n : Nat) : Cursor :=
  { c with rest := c.rest.drop n, index := c.index + n, column := c.column + n }

/-- The place after the line ends here; a carriage return and a line feed are one end. -/
def nextLine (c : Cursor) : Cursor :=
  let n := match c.rest with
    | '\r' :: '\n' :: _ => 2
    | _ => 1
  { rest := c.rest.drop n, index := c.index + n, line := c.line + 1, column := 0 }

/-- The characters from here on that satisfy the test. -/
def span (c : Cursor) (p : Char → Bool) : List Char :=
  c.rest.takeWhile p

/-- The place after the characters that satisfy the test. -/
def skip (c : Cursor) (p : Char → Bool) : Cursor :=
  c.advance (c.span p).length

/-- The cursor is at the end of a line. -/
def atBreak (c : Cursor) : Bool :=
  c.rest.head?.any isBreak

/-- The cursor is at a space or a tab. -/
def atGap (c : Cursor) : Bool :=
  c.rest.head?.any isGap

/-- The text of the line end at the cursor: a line feed for the usual ones, the other two as they
are; nothing elsewhere. -/
def breakText (c : Cursor) : List Char :=
  match c.rest with
  | [] => []
  | d :: _ =>
    if d.toNat == 0x2028 || d.toNat == 0x2029 then [d] else if isBreak d then ['\n'] else []

/-- The place after the line end at the cursor, if there is one. -/
def skipBreak (c : Cursor) : Cursor :=
  if c.atBreak then c.nextLine else c

/-- The place after the comment at the cursor, if there is one. -/
def skipComment (c : Cursor) : Cursor :=
  if startsWith '#' c.rest then c.skip (!isBreak ·) else c

/-- Three of the character stand at the start of the line, and then a separator. -/
def atMarker (c : Cursor) (d : Char) : Bool :=
  c.column == 0 &&
    match c.rest with
    | x :: y :: z :: s => x == d && y == d && z == d && endsWord s
    | _ => false

/-- A marker of the start or the end of a document stands at the cursor. -/
def atDocumentMarker (c : Cursor) : Bool :=
  c.atMarker '-' || c.atMarker '.'

end Cursor

end Yaml

end EntityScript
