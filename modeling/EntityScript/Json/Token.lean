import EntityScript.Json.Value
import EntityScript.Text.Occurrence

/-!
# JSON tokens

A text is cut into tokens. The first place where it is not JSON becomes a token of its own, which
says what a reader meets there. Two readers meet different things: one that wants the value decodes
strings and numbers as it goes, one that skips it only looks for its end. So a string of which an
escape names half a surrogate pair can be skipped but not read, and a number cut short is the end
of the text for the one and an ill-formed number for the other.
-/

namespace EntityScript

namespace Json

/-- Why a text cannot be read. -/
inductive Fault where
  /-- It is not JSON, or not a number or string that can be represented. -/
  | malformed
  /-- It ends too early. -/
  | truncated
  /-- It is JSON, but not of the shape that is asked for. -/
  | mismatch
deriving DecidableEq, Repr

/-- A token, or the place where there is none. -/
inductive Token where
  | comma
  | colon
  | openArray
  | closeArray
  | openObject
  | closeObject
  | null
  | bool (b : Bool)
  | number (n : Numeral)
  /-- A string; without its text when an escape names half a surrogate pair. -/
  | string (text : Option String)
  /-- A string without an end. -/
  | cutString (reading skipping : Fault)
  /-- No token: a stray character, or a number or a word that breaks off. -/
  | cutScalar (reading skipping : Fault)
deriving DecidableEq, Repr

/-! ### Strings -/

/-- What one character or escape of a string stands for. -/
inductive Piece where
  | plain (c : Char)
  /-- A 16-bit unit given by its number. -/
  | codeUnit (n : Nat)

/-- The pieces of a string, and what follows its closing quote or why there is none. -/
structure ScannedString where
  pieces : List Piece
  rest : Except Fault (List Char)

/-- The value of a hexadecimal digit. -/
def hexValue? (c : Char) : Option Nat :=
  if '0' ≤ c && c ≤ '9' then some (c.toNat - 48)
  else if 'a' ≤ c && c ≤ 'f' then some (c.toNat - 87)
  else if 'A' ≤ c && c ≤ 'F' then some (c.toNat - 55)
  else none

/-- The number that four hexadecimal digits write. -/
def hexNumber? (a b c d : Char) : Option Nat := do
  let a ← hexValue? a
  let b ← hexValue? b
  let c ← hexValue? c
  let d ← hexValue? d
  pure (((a * 16 + b) * 16 + c) * 16 + d)

/-- What a backslash and this character stand for. -/
def simpleEscape? : Char → Option Char
  | '"' => some '"'
  | '\\' => some '\\'
  | '/' => some '/'
  | 'b' => some (Char.ofNat 8)
  | 'f' => some (Char.ofNat 12)
  | 'n' => some '\n'
  | 'r' => some '\r'
  | 't' => some '\t'
  | _ => none

/-- Scans a string after its opening quote. -/
def scanString : List Char → ScannedString
  | [] => ⟨[], .error .truncated⟩
  | '"' :: s => ⟨[], .ok s⟩
  | ['\\'] => ⟨[], .error .truncated⟩
  | '\\' :: 'u' :: a :: b :: c :: d :: s =>
    match hexNumber? a b c d with
    | some n => let r := scanString s; ⟨.codeUnit n :: r.pieces, r.rest⟩
    | none => ⟨[], .error .malformed⟩
  | '\\' :: 'u' :: s =>
    -- The reader asks for four bytes first, and for digits only if they are there.
    ⟨[], .error (if Text.byteLength s < 4 then .truncated else .malformed)⟩
  | '\\' :: c :: s =>
    match simpleEscape? c with
    | some c => let r := scanString s; ⟨.plain c :: r.pieces, r.rest⟩
    | none => ⟨[], .error .malformed⟩
  | c :: s =>
    if c.toNat < 0x20 then ⟨[], .error .malformed⟩
    else let r := scanString s; ⟨.plain c :: r.pieces, r.rest⟩

/-- The unit is the first half of a surrogate pair. -/
def isHighSurrogate (n : Nat) : Bool :=
  0xD800 ≤ n && n ≤ 0xDBFF

/-- The unit is the second half of a surrogate pair. -/
def isLowSurrogate (n : Nat) : Bool :=
  0xDC00 ≤ n && n ≤ 0xDFFF

/-- The characters of a string's pieces, unless half a surrogate pair stands alone. In a string
that is cut off, its last unit may still wait for the other half. -/
def joinPieces (cut : Bool) : List Piece → Option (List Char)
  | [] => some []
  | .plain c :: ps => (joinPieces cut ps).map (c :: ·)
  | .codeUnit n :: ps =>
    -- The second half of a pair may not come first.
    if isLowSurrogate n then none
    else if isHighSurrogate n then
      match ps with
      | .codeUnit m :: ps =>
        if isLowSurrogate m then
          let c := Char.ofNat (0x10000 + (n - 0xD800) * 0x400 + (m - 0xDC00))
          (joinPieces cut ps).map (c :: ·)
        else none
      | .plain _ :: _ => none
      | [] => if cut then some [] else none
    else (joinPieces cut ps).map (Char.ofNat n :: ·)

/-- The token that begins with a quote, and what follows it. -/
def stringToken (s : List Char) : Token × List Char :=
  let scanned := scanString s
  match scanned.rest with
  | .ok rest => (.string ((joinPieces false scanned.pieces).map String.ofList), rest)
  | .error fault =>
    let reading := if (joinPieces true scanned.pieces).isSome then fault else .malformed
    (.cutString reading fault, [])

/-! ### Numbers -/

/-- What is met where a digit is due. -/
def missingDigit (s : List Char) : Token :=
  .cutScalar (if s.isEmpty then .truncated else .malformed) .malformed

/-- The token of a number after its sign, whole digits and fraction, and what follows it. -/
def exponentToken (n : Numeral) (s : List Char) : Token × List Char :=
  match s with
  | e :: s =>
    if e = 'e' || e = 'E' then
      let (negative, s) := match s with
        | '-' :: s => (true, s)
        | '+' :: s => (false, s)
        | s => (false, s)
      let digits := s.takeWhile Char.isDigit
      if digits.isEmpty then (missingDigit s, [])
      else (.number { n with exponent := some (negative, digits) }, s.dropWhile Char.isDigit)
    else (.number n, e :: s)
  | [] => (.number n, [])

/-- The token of a number after its sign and whole digits, and what follows it. -/
def fractionToken (n : Numeral) (s : List Char) : Token × List Char :=
  match s with
  | '.' :: s =>
    let digits := s.takeWhile Char.isDigit
    if digits.isEmpty then (missingDigit s, [])
    else exponentToken { n with fraction := digits } (s.dropWhile Char.isDigit)
  | s => exponentToken n s

/-- The token of a number after its sign, and what follows it. -/
def numberToken (negative : Bool) (s : List Char) : Token × List Char :=
  let digits := s.takeWhile Char.isDigit
  match digits with
  | [] => (missingDigit s, [])
  -- No digit may follow a zero at the start.
  | '0' :: _ :: _ => (.cutScalar .malformed .malformed, [])
  | _ => fractionToken ⟨negative, digits, [], none⟩ (s.dropWhile Char.isDigit)

/-! ### Words and the rest -/

/-- The token of a word of which the letters in `due` are still to come. -/
def wordToken (t : Token) : List Char → List Char → Token × List Char
  | [], s => (t, s)
  | _ :: _, [] => (.cutScalar .truncated .truncated, [])
  | d :: due, c :: s =>
    if c = d then wordToken t due s else (.cutScalar .malformed .malformed, [])

/-- The character separates tokens and means nothing itself. -/
def isSpace (c : Char) : Bool :=
  c = ' ' || c = '\n' || c = '\t' || c = '\r'

/-- The token that begins with a character that is no space, and what follows it. -/
def nextToken (c : Char) (s : List Char) : Token × List Char :=
  if c = ',' then (.comma, s)
  else if c = ':' then (.colon, s)
  else if c = '[' then (.openArray, s)
  else if c = ']' then (.closeArray, s)
  else if c = '\x7b' then (.openObject, s)
  else if c = '\x7d' then (.closeObject, s)
  else if c = '"' then stringToken s
  else if c = '-' then numberToken true s
  else if c.isDigit then numberToken false (c :: s)
  else if c = 'n' then wordToken .null ['u', 'l', 'l'] s
  else if c = 't' then wordToken (.bool true) ['r', 'u', 'e'] s
  else if c = 'f' then wordToken (.bool false) ['a', 'l', 's', 'e'] s
  else (.cutScalar .malformed .malformed, s)

/-- The tokens of a text, of which at most `fuel` are cut off. -/
def tokensWithin : Nat → List Char → List Token
  | 0, _ => []
  | fuel + 1, s =>
    match s.dropWhile isSpace with
    | [] => []
    | c :: s =>
      let (token, rest) := nextToken c s
      token :: tokensWithin fuel rest

/-- The tokens of a text. Every token takes at least one character, so there are no more tokens
than characters. -/
def tokens (s : List Char) : List Token :=
  tokensWithin s.length s

end Json

end EntityScript
