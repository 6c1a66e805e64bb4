import EntityScript.Yaml.Scalar.Meaning
import EntityScript.Yaml.Token

/-!
# The written form of scalars

A text is written as a plain scalar if that stands for it, else in single quotes, and in double
quotes if there are characters in it that need escapes. A text with line feeds is written as a
literal scalar if its lines can stand as they are.
-/

namespace EntityScript

namespace Yaml

/-! ### What a text allows -/

/-- The character can be written as it is. -/
def isPrintable (c : Char) : Bool :=
  let n := c.toNat
  n == 10 || (0x20 ≤ n && n ≤ 0x7E) || (0xA0 ≤ n && n ≤ 0xFFFD && n != 0xFEFF)

/-- A separator, the null character or the end follows. -/
def endsWordOrNull : List Char → Bool
  | [] => true
  | c :: _ => isSeparator c || c.toNat == 0

/-- The characters that are indicators at the start of a plain scalar, whatever follows. -/
def leadingIndicators : List Char :=
  "#,[]\x7b\x7d&*!|>'\"%@`".toList

/-- The text begins as an indicator or a marker would. -/
def startsIndicator (s : List Char) : Bool :=
  ['-', '-', '-'].isPrefixOf s || ['.', '.', '.'].isPrefixOf s ||
    match s with
    | [] => false
    | c :: s =>
      leadingIndicators.contains c || ((c == '?' || c == ':' || c == '-') && endsWordOrNull s)

/-- There is the sign of a value, or of a comment, after the first character `previous`. -/
def hasIndicatorAfter (previous : Char) : List Char → Bool
  | [] => false
  | c :: s =>
    (c == ':' && endsWordOrNull s) || (c == '#' && endsWordOrNull [previous]) ||
      hasIndicatorAfter c s

/-- The text holds an indicator that a plain scalar cannot hold. -/
def hasIndicator (s : List Char) : Bool :=
  startsIndicator s ||
    match s with
    | [] => false
    | c :: s => hasIndicatorAfter c s

/-- Somewhere a character of the first kind stands right before one of the second kind. -/
def hasPair (p q : Char → Bool) : List Char → Bool
  | c :: d :: s => (p c && q d) || hasPair p q (d :: s)
  | _ => false

/-- The character is a space. -/
def isSpace (c : Char) : Bool :=
  c == ' '

/-- The first or last character is of the kind. -/
def isAtEdge (p : Char → Bool) (s : List Char) : Bool :=
  s.head?.any p || s.getLast?.any p

/-- Only escapes can write the text. -/
def needsEscapes (s : List Char) : Bool :=
  s.any (!isPrintable ·) || hasPair isSpace isBreak s

/-- The text can be written as a plain scalar in block context. -/
def allowsPlain (s : List Char) : Bool :=
  !(needsEscapes s || s.any isBreak || isAtEdge isSpace s || hasIndicator s)

/-- The text can be written in single quotes. -/
def allowsSingleQuotes (s : List Char) : Bool :=
  !(needsEscapes s || hasPair isBreak isSpace s)

/-- The text can be written as a literal scalar. -/
def allowsLiteral (s : List Char) : Bool :=
  !(s.isEmpty || needsEscapes s || s.getLast?.any isSpace)

/-- The style in which a text is written. -/
def styleOf (s : List Char) : ScalarStyle :=
  if s.contains '\n' then if allowsLiteral s then .literal else .doubleQuoted
  else if !needsQuotes s && allowsPlain s then .plain
  else if allowsSingleQuotes s then .singleQuoted
  else .doubleQuoted

/-! ### Styles -/

/-- The blanks of an indentation. -/
def spaces (n : Nat) : List Char :=
  List.replicate n ' '

/-- The lines of a text in single quotes; `broken` if a line has just ended. Lines after the first
one are indented. -/
def singleQuotedBody (indent : Nat) (broken : Bool) : List Char → List Char
  | [] => if broken then spaces indent else []
  | c :: s =>
    if isBreak c then
      (if !broken && c == '\n' then ['\n'] else []) ++ c :: singleQuotedBody indent true s
    else
      (if broken then spaces indent else []) ++ (if c == '\'' then ['\''] else []) ++
        c :: singleQuotedBody indent false s

/-- A hexadecimal digit, upper case. -/
def upperHexDigit (n : Nat) : Char :=
  (Nat.digitChar (n % 16)).toUpper

/-- The last `width` hexadecimal digits of a number. -/
def upperHex : Nat → Nat → List Char
  | 0, _ => []
  | width + 1, n => upperHex width (n / 16) ++ [upperHexDigit n]

/-- The letter of the escape of a character. -/
def escapeLetter? (c : Char) : Option Char :=
  match c.toNat with
  | 0 => some '0'
  | 7 => some 'a'
  | 8 => some 'b'
  | 9 => some 't'
  | 10 => some 'n'
  | 11 => some 'v'
  | 12 => some 'f'
  | 13 => some 'r'
  | 0x1B => some 'e'
  | 0x22 => some '"'
  | 0x5C => some '\\'
  | 0x85 => some 'N'
  | 0xA0 => some '_'
  | 0x2028 => some 'L'
  | 0x2029 => some 'P'
  | _ => none

/-- The escape of a character. -/
def escapeOf (c : Char) : List Char :=
  match escapeLetter? c with
  | some letter => ['\\', letter]
  | none =>
    let n := c.toNat
    if n ≤ 0xFF then '\\' :: 'x' :: upperHex 2 n
    else if n ≤ 0xFFFF then '\\' :: 'u' :: upperHex 4 n
    else '\\' :: 'U' :: upperHex 8 n

/-- A character inside double quotes. -/
def doubleQuotedChar (c : Char) : List Char :=
  if !isPrintable c || isBreak c || c == '"' || c == '\\' then escapeOf c else [c]

/-- What the header of a literal scalar says about its indentation. -/
def indentationHint (s : List Char) : List Char :=
  if s.head?.any fun c => isSpace c || isBreak c then ['2'] else []

/-- What the header of a literal scalar says about the line ends behind the text. -/
def chompingHint (s : List Char) : List Char :=
  match s.reverse with
  | [] => ['-']
  | c :: before =>
    if !isBreak c then ['-']
    else match before with
      | [] => ['+']
      | d :: _ => if isBreak d then ['+'] else []

/-- The lines of a literal scalar, of which those with text are indented. -/
def literalBody (indent : Nat) (broken : Bool) : List Char → List Char
  | [] => []
  | c :: s =>
    if isBreak c then c :: literalBody indent true s
    else (if broken then spaces indent else []) ++ c :: literalBody indent false s

/-- The written form of a text whose further lines are indented. -/
def writeScalar (indent : Nat) (s : List Char) : List Char :=
  match styleOf s with
  | .plain | .folded => s
  | .singleQuoted => '\'' :: singleQuotedBody indent false s ++ ['\'']
  | .doubleQuoted => '"' :: s.flatMap doubleQuotedChar ++ ['"']
  | .literal =>
    '|' :: indentationHint s ++ chompingHint s ++ '\n' :: literalBody indent true s

end Yaml

end EntityScript
