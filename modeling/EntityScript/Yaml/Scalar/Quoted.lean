import EntityScript.Yaml.Scalar.Gap

/-!
# Quoted scalars

In single quotes a quote is written twice, and nothing else is special. In double quotes a
backslash begins an escape; before the end of a line it joins this line and the next.
-/

namespace EntityScript

namespace Yaml

/-! ### Escapes -/

/-- The number of a hexadecimal digit. -/
def hexDigitValue? (c : Char) : Option Nat :=
  if c.isDigit then some (c.toNat - 48)
  else if 'a' ≤ c ∧ c ≤ 'f' then some (c.toNat - 87)
  else if 'A' ≤ c ∧ c ≤ 'F' then some (c.toNat - 55)
  else none

/-- The number that a text of hexadecimal digits writes. -/
def hexValue? (s : List Char) : Option Nat :=
  s.foldl (fun n c => do some (16 * (← n) + (← hexDigitValue? c))) (some 0)

/-- The character of an escape of one letter. -/
def escapedChar? (c : Char) : Option Char :=
  match c with
  | '0' => some (Char.ofNat 0)
  | 'a' => some (Char.ofNat 7)
  | 'b' => some (Char.ofNat 8)
  | 't' | '\t' => some '\t'
  | 'n' => some '\n'
  | 'v' => some (Char.ofNat 11)
  | 'f' => some (Char.ofNat 12)
  | 'r' => some '\r'
  | 'e' => some (Char.ofNat 0x1B)
  | ' ' => some ' '
  | '"' => some '"'
  | '/' => some '/'
  | '\\' => some '\\'
  | 'N' => some (Char.ofNat 0x85)
  | '_' => some (Char.ofNat 0xA0)
  | 'L' => some (Char.ofNat 0x2028)
  | 'P' => some (Char.ofNat 0x2029)
  | _ => none

/-- The number of digits of an escape by code point. -/
def escapeLength? (c : Char) : Option Nat :=
  match c with
  | 'x' => some 2
  | 'u' => some 4
  | 'U' => some 8
  | _ => none

/-- The character of a code point, if it is one. -/
def charOfCode? (n : Nat) : Option Char :=
  if n.isValidChar then some (Char.ofNat n) else none

/-- The character of the escape after a backslash, and the length of the escape. -/
def readEscape? : List Char → Option (Char × Nat)
  | [] => none
  | c :: s =>
    match escapeLength? c with
    | none => (escapedChar? c).map (·, 1)
    | some n =>
      let digits := s.take n
      if digits.length < n then none
      else do
        let code ← hexValue? digits
        let d ← charOfCode? code
        some (d, n + 1)

/-! ### Words -/

/-- A word inside quotes. -/
structure QuotedWord where
  text : List Char := []
  /-- The number of characters with which it is written. -/
  length : Nat := 0
  /-- A backslash joins the line to the next one. -/
  joinsLines : Bool := false

/-- The word with a character before it that is written with `n` characters. -/
def QuotedWord.cons (c : Char) (n : Nat) (w : QuotedWord) : QuotedWord :=
  { w with text := c :: w.text, length := n + w.length }

/-- The word at the start of the text after `skip` characters, in single quotes. -/
def singleQuotedWord : Nat → List Char → QuotedWord
  | _, [] => {}
  | skip + 1, _ :: s => singleQuotedWord skip s
  | 0, c :: s =>
    if isSeparator c then {}
    else if c == '\'' then
      if startsWith '\'' s then (singleQuotedWord 1 s).cons '\'' 2 else {}
    else (singleQuotedWord 0 s).cons c 1

/-- The word at the start of the text after `skip` characters, in double quotes. -/
def doubleQuotedWord : Nat → List Char → Option QuotedWord
  | _, [] => some {}
  | skip + 1, _ :: s => doubleQuotedWord skip s
  | 0, c :: s =>
    if isSeparator c || c == '"' then some {}
    else if c == '\\' then
      -- An escaped line end is no part of the word; the reader of the scalar passes over it.
      if s.head?.any isBreak then some { length := 1, joinsLines := true }
      else do
        let (d, n) ← readEscape? s
        let w ← doubleQuotedWord n s
        some (w.cons d (n + 1))
    else (doubleQuotedWord 0 s).map (·.cons c 1)

/-! ### Scalars -/

/-- Reads on in a quoted scalar, of which `text` has been read. -/
def readQuotedWithin (quote : Char) : Nat → List Char → Cursor → Option (List Char × Cursor)
  | 0, _, _ => none
  | fuel + 1, text, c =>
    if c.atDocumentMarker || c.rest.isEmpty then none
    else do
      let word ← if quote = '\'' then some (singleQuotedWord 0 c.rest)
        else doubleQuotedWord 0 c.rest
      let c := c.advance word.length
      -- A backslash at the end of a line joins it to the next one without a blank.
      let c := if word.joinsLines then c.nextLine else c
      let text := text ++ word.text
      if startsWith quote c.rest then some (text, c.advance 1)
      else
        let (g, c) ← readGap 0 { folds := word.joinsLines } c
        readQuotedWithin quote fuel (text ++ g.text) c

/-- Reads a scalar in quotes of the given kind. -/
def readQuoted (quote : Char) (c : Cursor) : Option (List Char × Cursor) :=
  readQuotedWithin quote (c.rest.length + 1) [] (c.advance 1)

end Yaml

end EntityScript
