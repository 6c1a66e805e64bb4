import EntityScript.Regex.Pattern
import EntityScript.Text.Blank
import EntityScript.Unicode.Binary
import EntityScript.Unicode.Category

/-!
# Reading patterns

A pattern is read from left to right. Every reader takes what is left of the text and gives what it
has read with the text after it, or nothing if the text is no pattern. While the flag for it is
set, blanks and comments between the signs of a pattern are passed over; the readers get the flag
as `spaced`.
-/

namespace EntityScript

namespace Regex

/-! ### Blanks and numbers -/

/-- The text after blanks and comments. -/
def skipComments (inComment : Bool) : List Char → List Char
  | [] => []
  | c :: s =>
    if inComment then skipComments (c != '\n') s
    else if Text.isBlank c then skipComments false s
    else if c = '#' then skipComments true s
    else c :: s

/-- The text after blanks and comments, if they are to be passed over. -/
def skip (spaced : Bool) (s : List Char) : List Char :=
  if spaced then skipComments false s else s

/-- The digits at the start of a text, and the text after them. -/
def takeDigits (spaced : Bool) : Nat → List Char → List Char × List Char
  | 0, s => ([], s)
  | fuel + 1, c :: s =>
    if '0' ≤ c && c ≤ '9' then
      let (digits, rest) := takeDigits spaced fuel (skip spaced s)
      (c :: digits, rest)
    else ([], c :: s)
  | _ + 1, [] => ([], [])

/-- The value of decimal digits. -/
def decimalValue (digits : List Char) : Nat :=
  digits.foldl (fun n c => 10 * n + (c.toNat - 48)) 0

/-- A number as the count of a repetition, blanks around it allowed. -/
inductive Count where
  | none
  | some (n : Nat)

/-- Reads a count; fails if it does not fit in 32 bits. -/
def readCount (spaced : Bool) (s : List Char) : Option (Count × List Char) :=
  let s := Text.trimStart s
  let (digits, s) := takeDigits spaced s.length s
  let rest := if s.head?.any Text.isBlank then skip spaced (Text.trimStart s) else s
  if digits.isEmpty then some (.none, rest)
  else if decimalValue digits < 0x100000000 then some (.some (decimalValue digits), rest)
  else none

/-! ### Escapes -/

/-- What an escape or a single character of a class stands for. -/
inductive Atom where
  | literal (l : Literal)
  | assertion (a : Assertion)
  | property (negated : Bool) (query : PropertyQuery)
  | perl (negated : Bool) (c : PerlClass)

/-- The value of a hexadecimal digit. -/
def hexValue? (c : Char) : Option Nat :=
  if '0' ≤ c && c ≤ '9' then some (c.toNat - 48)
  else if 'a' ≤ c && c ≤ 'f' then some (c.toNat - 87)
  else if 'A' ≤ c && c ≤ 'F' then some (c.toNat - 55)
  else none

/-- The character of a number. -/
def scalar? (n : Nat) : Option Char :=
  if n.isValidChar then some (Char.ofNat n) else none

/-- Reads exactly `count` hexadecimal digits after those that gave `n`. -/
def readHexDigits (spaced : Bool) : Nat → Nat → List Char → Option (Nat × List Char)
  | 0, n, s => some (n, s)
  | _ + 1, _, [] => none
  | count + 1, n, c :: s => do
    let d ← hexValue? c
    readHexDigits spaced count (16 * n + d) (skip spaced s)

/-- Reads hexadecimal digits up to a closing brace, after those that gave `n`. -/
def readHexBraces (spaced : Bool) : Nat → Option Nat → List Char → Option (Nat × List Char)
  | 0, _, _ => none
  | _ + 1, _, [] => none
  | fuel + 1, n, c :: s =>
    if c = '\x7d' then n.map fun n => (n, skip spaced s)
    else do
      let d ← hexValue? c
      let m := 16 * n.getD 0 + d
      if m < 0x100000000 then readHexBraces spaced fuel (some m) (skip spaced s) else none

/-- Reads a character given by its number, after the letter that says how many digits there are. -/
def readHex (spaced : Bool) (letter : Char) (s : List Char) : Option (Literal × List Char) :=
  match skip spaced s with
  | [] => none
  | '\x7b' :: s => do
    let (n, rest) ← readHexBraces spaced (s.length + 1) none (skip spaced s)
    let c ← scalar? n
    some (⟨c, false⟩, rest)
  | s => do
    let count := if letter = 'x' then 2 else if letter = 'u' then 4 else 8
    let (n, rest) ← readHexDigits spaced count 0 s
    let c ← scalar? n
    some (⟨c, letter = 'x'⟩, rest)

/-- Reads the name of a property up to its closing brace. -/
def readPropertyName (spaced : Bool) : Nat → List Char → Option (List Char × List Char)
  | 0, _ => none
  | _ + 1, [] => none
  | fuel + 1, c :: s =>
    if c = '\x7d' then some ([], s)
    else do
      let (name, rest) ← readPropertyName spaced fuel (skip spaced s)
      some (c :: name, rest)

/-- The text before the first place where `p` stands, and the text after it. -/
def splitAt? (p : List Char) : List Char → Option (List Char × List Char)
  | [] => none
  | c :: s =>
    if p.isPrefixOf (c :: s) then some ([], (c :: s).drop p.length)
    else (splitAt? p s).map fun (before, rest) => (c :: before, rest)

/-- The property that a name in braces stands for, and whether the sign in it negates. -/
def propertyOfName (name : List Char) : Bool × PropertyQuery :=
  let valued (parts : List Char × List Char) : PropertyQuery :=
    .valued (String.ofList parts.1) (String.ofList parts.2)
  match splitAt? ['!', '='] name with
  | some parts => (true, valued parts)
  | none =>
    match splitAt? [':'] name with
    | some parts => (false, valued parts)
    | none =>
      match splitAt? ['='] name with
      | some parts => (false, valued parts)
      | none => (false, .named (String.ofList name))

/-- Reads a property after its letter. -/
def readProperty (spaced negated : Bool) (s : List Char) : Option (Atom × List Char) :=
  match skip spaced s with
  | [] => none
  | '\\' :: _ => none
  | '\x7b' :: s => do
    let (name, rest) ← readPropertyName spaced (s.length + 1) (skip spaced s)
    let (negates, query) := propertyOfName name
    some (.property (negated != negates) query, rest)
  | c :: s => some (.property negated (.named c.toString), skip spaced s)

/-- The character may stand in the name of a boundary. -/
def isBoundaryChar (c : Char) : Bool :=
  c.isAlpha || c = '-'

/-- Reads the characters of the name of a boundary. -/
def readBoundaryName (spaced : Bool) : Nat → List Char → List Char × List Char
  | 0, s => ([], s)
  | _ + 1, [] => ([], [])
  | fuel + 1, c :: s =>
    if isBoundaryChar c then
      let (name, rest) := readBoundaryName spaced fuel (skip spaced s)
      (c :: name, rest)
    else ([], c :: s)

/-- The boundary of a name. -/
def boundaryOfName? (name : List Char) : Option Assertion :=
  if name = "start".toList then some .wordStart
  else if name = "end".toList then some .wordEnd
  else if name = "start-half".toList then some .wordStartHalf
  else if name = "end-half".toList then some .wordEndHalf
  else none

/-- Reads a boundary, whose name may follow in braces. -/
def readBoundary (spaced : Bool) (s : List Char) : Option (Atom × List Char) :=
  match s with
  | '\x7b' :: t =>
    match skip spaced t with
    | [] => none
    | c :: t =>
      if isBoundaryChar c then
        match readBoundaryName spaced (t.length + 1) (c :: t) with
        | (name, '\x7d' :: rest) => (boundaryOfName? name).map fun a => (.assertion a, rest)
        | _ => none
      else some (.assertion .wordBoundary, s)
  | s => some (.assertion .wordBoundary, s)

/-- The character may be escaped to stand for itself. -/
def isEscapable (c : Char) : Bool :=
  c.toNat < 0x80 && !c.isAlphanum && c != '<' && c != '>'

/-- The control character that a letter stands for in an escape. -/
def controlEscape? (c : Char) : Option Char :=
  if c = 'a' then some (Char.ofNat 7)
  else if c = 'f' then some (Char.ofNat 12)
  else if c = 't' then some '\t'
  else if c = 'n' then some '\n'
  else if c = 'r' then some '\r'
  else if c = 'v' then some (Char.ofNat 11)
  else none

/-- The assertion that a character stands for in an escape. -/
def assertionEscape? (c : Char) : Option Assertion :=
  if c = 'A' then some .startText
  else if c = 'z' then some .endText
  else if c = 'B' then some .notWordBoundary
  else if c = '<' then some .wordStart
  else if c = '>' then some .wordEnd
  else none

/-- The class that a letter stands for in an escape; negated if it is upper case. -/
def perlEscape? (c : Char) : Option (Bool × PerlClass) :=
  if c = 'd' || c = 'D' then some (c = 'D', .digit)
  else if c = 's' || c = 'S' then some (c = 'S', .space)
  else if c = 'w' || c = 'W' then some (c = 'W', .word)
  else none

/-- Reads an escape after its backslash. -/
def readEscape (spaced : Bool) : List Char → Option (Atom × List Char)
  | [] => none
  | c :: s =>
    if c = 'x' || c = 'u' || c = 'U' then
      (readHex spaced c s).map fun (l, rest) => (.literal l, rest)
    else if c = 'p' || c = 'P' then readProperty spaced (c = 'P') s
    else if c = 'b' then readBoundary spaced s
    else if isEscapable c then some (.literal ⟨c, false⟩, s)
    else match perlEscape? c, controlEscape? c, assertionEscape? c with
      | some (negated, k), _, _ => some (.perl negated k, s)
      | none, some d, _ => some (.literal ⟨d, false⟩, s)
      | none, none, some a => some (.assertion a, s)
      | none, none, none => none

/-! ### Bracketed classes -/

/-- The classes of ASCII characters that have a name. -/
def asciiClasses : List (String × List (Nat × Nat)) := [
  ("alnum", [(0x30, 0x39), (0x41, 0x5A), (0x61, 0x7A)]),
  ("alpha", [(0x41, 0x5A), (0x61, 0x7A)]),
  ("ascii", [(0, 0x7F)]),
  ("blank", [(0x09, 0x09), (0x20, 0x20)]),
  ("cntrl", [(0, 0x1F), (0x7F, 0x7F)]),
  ("digit", [(0x30, 0x39)]),
  ("graph", [(0x21, 0x7E)]),
  ("lower", [(0x61, 0x7A)]),
  ("print", [(0x20, 0x7E)]),
  ("punct", [(0x21, 0x2F), (0x3A, 0x40), (0x5B, 0x60), (0x7B, 0x7E)]),
  ("space", [(0x09, 0x0D), (0x20, 0x20)]),
  ("upper", [(0x41, 0x5A)]),
  ("word", [(0x30, 0x39), (0x41, 0x5A), (0x5F, 0x5F), (0x61, 0x7A)]),
  ("xdigit", [(0x30, 0x39), (0x41, 0x46), (0x61, 0x66)])]

/-- Reads the name of a class of ASCII characters between `[:` and `:]`, after its bracket. If it is
none, the bracket has another meaning. -/
def readAsciiClass? (s : List Char) : Option (SetExpr × List Char) :=
  match s with
  | ':' :: s =>
    let (negated, s) := match s with
      | '^' :: s => (true, s)
      | s => (false, s)
    let name := String.ofList (s.takeWhile (· != ':'))
    match s.dropWhile (· != ':') with
    | ':' :: ']' :: rest =>
      (asciiClasses.find? (·.1 == name)).map fun (_, ranges) => (.ascii negated ranges, rest)
    | _ => none
  | _ => none

/-- Reads a character or an escape in a class. -/
def readSetAtom (spaced : Bool) : List Char → Option (Atom × List Char)
  | [] => none
  | '\\' :: s => readEscape spaced s
  | c :: s => some (.literal ⟨c, false⟩, s)

/-- An atom as an item of a class. Assertions are none. -/
def Atom.item? : Atom → Option SetExpr
  | .literal l => some (.literal l)
  | .property negated query => some (.property negated query)
  | .perl negated c => some (.perl negated c)
  | .assertion _ => none

/-- The character after blanks and the start of a comment, where a hyphen is followed by them. -/
def peekAfter (inComment : Bool) : List Char → Option Char
  | [] => none
  | c :: s =>
    if Text.isBlank c then peekAfter inComment s
    else if !inComment && c = '#' then peekAfter true s
    else some c

/-- The character after a hyphen in a class. -/
def peekSpace (spaced : Bool) (s : List Char) : Option Char :=
  if spaced then
    match peekAfter false s with
    | some c => some c
    | none => s.head?
  else s.head?

/-- Reads an item of a class: a range, or a single atom. -/
def readSetRange (spaced : Bool) (s : List Char) : Option (SetExpr × List Char) := do
  let (first, s) ← readSetAtom spaced s
  match skip spaced s with
  | [] => none
  | '-' :: t =>
    if peekSpace spaced t = some ']' || peekSpace spaced t = some '-' then
      first.item?.map fun item => (item, '-' :: t)
    else
      match ← readSetAtom spaced (skip spaced t) with
      | (.literal last, rest) =>
        match first with
        | .literal first =>
          if first.char ≤ last.char then some (.range first last, rest) else none
        | _ => none
      | _ => none
  | s => first.item?.map fun item => (item, s)

/-- Reads what stands at the start of a class: whether it is negated, and hyphens or a bracket that
stand for themselves. The items are given last one first. -/
def readSetStart (spaced : Bool) (s : List Char) : Option (Bool × List SetExpr × List Char) :=
  let s := skip spaced s
  let (negated, s) := match s with
    | '^' :: s => (true, skip spaced s)
    | s => (false, s)
  let (items, s) := hyphens [] s.length s
  match items, s with
  | _, [] => none
  | [], ']' :: s =>
    match skip spaced s with
    | [] => none
    | s => some (negated, [.literal ⟨']', false⟩], s)
  | items, s => some (negated, items, s)
where
  /-- Reads hyphens that stand for themselves. -/
  hyphens (items : List SetExpr) : Nat → List Char → List SetExpr × List Char
    | fuel + 1, '-' :: s => hyphens (.literal ⟨'-', false⟩ :: items) fuel (skip spaced s)
    | _, s => (items, s)

/-- What stands before an operator in a class. -/
abbrev SetOperand := Option (SetOp × SetExpr)

/-- Joins what stands before an operator with what stands after it. -/
def joinOperand (operand : SetOperand) (items : List SetExpr) : SetExpr :=
  match operand with
  | none => .ofItems items.reverse
  | some (op, lhs) => .binary op lhs (.ofItems items.reverse)

/-- Reads the rest of a class up to its bracket: `operand` is what stands before the last operator,
and `items` are those after it, last one first. -/
def readSet (spaced : Bool) :
    Nat → SetOperand → List SetExpr → List Char → Option (SetExpr × List Char)
  | 0, _, _, _ => none
  | fuel + 1, operand, items, s =>
    match skip spaced s with
    | [] => none
    | '[' :: s =>
      match readAsciiClass? s with
      | some (item, rest) => readSet spaced fuel operand (item :: items) rest
      -- A bracket that does not begin the name of a class begins a class of its own.
      | none => do
        let (negated, inner, s) ← readSetStart spaced s
        let (e, rest) ← readSet spaced fuel none inner s
        readSet spaced fuel operand (.bracketed negated e :: items) rest
    | ']' :: rest => some (joinOperand operand items, rest)
    | '&' :: '&' :: s => readSet spaced fuel (some (.intersection, joinOperand operand items)) [] s
    | '-' :: '-' :: s => readSet spaced fuel (some (.difference, joinOperand operand items)) [] s
    | '~' :: '~' :: s =>
      readSet spaced fuel (some (.symmetricDifference, joinOperand operand items)) [] s
    -- Anything else is a character, or a range of them.
    | s => do
      let (item, rest) ← readSetRange spaced s
      readSet spaced fuel operand (item :: items) rest

/-- Reads a bracketed class after its bracket. -/
def readBracketed (spaced : Bool) (s : List Char) : Option (Pattern × List Char) := do
  let (negated, items, s) ← readSetStart spaced s
  let (e, rest) ← readSet spaced (s.length + 1) none items s
  some (.bracketed negated e, rest)

/-! ### Groups -/

/-- Letters for the names of groups. -/
def alphabeticSet : Unicode.CharSet :=
  .ofText Unicode.propertyAlphabetic.written

/-- Digits and other numbers for the names of groups. -/
def numericSet : Unicode.CharSet :=
  (Unicode.categoryByName? "n").getD []

/-- The character may stand in the name of a group. -/
def isNameChar (first : Bool) (c : Char) : Bool :=
  c = '_' || alphabeticSet.contains c ||
    (!first && (c = '.' || c = '[' || c = ']' || numericSet.contains c))

/-- The flag of a letter. -/
def flagOfLetter? (c : Char) : Option Flag :=
  if c = 'i' then some .caseInsensitive
  else if c = 'm' then some .multiLine
  else if c = 's' then some .dotMatchesNewLine
  else if c = 'U' then some .swapGreed
  else if c = 'u' then some .unicode
  else if c = 'R' then some .carriageReturn
  else if c = 'x' then some .ignoreSpace
  else none

/-- Reads flags up to a colon or parenthesis. `change` are the flags read so far, last one first;
`negated` says whether a hyphen stands before, and `dangling` whether it was the last character. -/
def readFlags (change : FlagChange) (negated dangling : Bool) :
    List Char → Option (FlagChange × List Char)
  | [] => none
  | c :: s =>
    if c = ':' || c = ')' then if dangling then none else some (change.reverse, c :: s)
    else if c = '-' then if negated then none else readFlags change true true s
    else match flagOfLetter? c with
      | none => none
      | some f =>
        if change.any (·.1 == f) then none
        else readFlags ((f, !negated) :: change) negated false s

/-- What stands at the start of a group. -/
inductive GroupStart where
  /-- Flags for the rest of the group around them. -/
  | flags (change : FlagChange)
  /-- A group that captures, perhaps with a name. -/
  | capture (name : Option (List Char))
  /-- A group that does not capture, with flags of its own. -/
  | plain (change : FlagChange)

/-- Reads the name of a group, after its angle bracket. -/
def readGroupName (s : List Char) : Option (List Char × List Char) :=
  let name := s.takeWhile (· != '>')
  match s.dropWhile (· != '>') with
  | [] => none
  | _ :: rest =>
    match name with
    | [] => none
    | c :: cs =>
      if isNameChar true c && cs.all (isNameChar false) then some (name, rest) else none

/-- Reads the start of a group after its parenthesis. Looking around is not supported. -/
def readGroupStart (spaced : Bool) (s : List Char) : Option (GroupStart × List Char) :=
  match skip spaced s with
  | '?' :: '=' :: _ | '?' :: '!' :: _ | '?' :: '<' :: '=' :: _ | '?' :: '<' :: '!' :: _ => none
  | '?' :: 'P' :: '<' :: s | '?' :: '<' :: s =>
    (readGroupName s).map fun (name, rest) => (.capture (some name), rest)
  | '?' :: s => do
    let (change, rest) ← readFlags [] false false s
    match rest with
    | ')' :: rest => if s.head? = some ')' then none else some (.flags change, rest)
    | _ :: rest => some (.plain change, rest)
    | [] => none
  | s => some (.capture none, s)

/-- Whether blanks are passed over after a change of flags. -/
def spacedAfter (spaced : Bool) (change : FlagChange) : Bool :=
  (change.find? (·.1 == .ignoreSpace)).elim spaced (·.2)

/-! ### Patterns -/

/-- Reads the bounds of a repetition after its brace: the least and the greatest number. -/
def readBounds (spaced : Bool) (s : List Char) : Option (Nat × Option Nat × List Char) := do
  let s := skip spaced s
  if s.isEmpty then none
  let (first, s) ← readCount spaced s
  match first, s with
  | .some n, '\x7d' :: rest => some (n, some n, rest)
  | .some n, ',' :: s =>
    match skip spaced s with
    | [] => none
    | '\x7d' :: rest => some (n, none, rest)
    | s =>
      match ← readCount spaced s with
      | (.some m, '\x7d' :: rest) => if n ≤ m then some (n, some m, rest) else none
      | _ => none
  | _, _ => none

/-- The text after a question mark, which makes a repetition lazy. -/
def skipLazy : List Char → List Char
  | '?' :: s => s
  | s => s

/-- Repeats the last part. There must be one, and flags are none. -/
def repeatLast (min : Nat) (max : Option Nat) : List Pattern → Option (List Pattern)
  | [] | .empty :: _ | .flags _ :: _ => none
  | p :: parts => some (.repetition min max p :: parts)

/-- The bounds that a sign of repetition stands for. -/
def repetitionSign? (c : Char) : Option (Nat × Option Nat) :=
  if c = '?' then some (0, some 1)
  else if c = '*' then some (0, none)
  else if c = '+' then some (1, none)
  else none

/-- A pattern that has been read, the names of the groups so far, and the text after it. -/
structure Reading where
  pattern : Pattern
  names : List (List Char)
  rest : List Char

/-- Reads an alternation up to a closing parenthesis or the end. `branches` are the branches read
so far and `parts` the parts of the current one, last one first. -/
def readPattern : Nat → (spaced : Bool) → (names : List (List Char)) →
    (branches parts : List Pattern) → List Char → Option Reading
  | 0, _, _, _, _, _ => none
  | fuel + 1, spaced, names, branches, parts, s =>
    let finish (rest : List Char) : Option Reading :=
      some ⟨.ofBranches ((Pattern.ofParts parts.reverse :: branches).reverse), names, rest⟩
    match skip spaced s with
    | [] => finish []
    | ')' :: s => finish (')' :: s)
    | '|' :: s => readPattern fuel spaced names (Pattern.ofParts parts.reverse :: branches) [] s
    | '(' :: s => do
      match ← readGroupStart spaced s with
      | (.flags change, rest) =>
        readPattern fuel (spacedAfter spaced change) names branches (.flags change :: parts) rest
      | (.capture name, rest) =>
        -- No two groups of a pattern share a name, so names are carried along over the whole
        -- pattern.
        if name.any names.contains then none
        let inner ← readPattern fuel spaced (name.toList ++ names) [] [] rest
        match inner.rest with
        | ')' :: rest =>
          readPattern fuel spaced inner.names branches (.group true [] inner.pattern :: parts) rest
        | _ => none
      -- What a group says of white space in patterns holds inside of it.
      | (.plain change, rest) =>
        let inner ← readPattern fuel (spacedAfter spaced change) names [] [] rest
        match inner.rest with
        | ')' :: rest =>
          let group := Pattern.group false change inner.pattern
          readPattern fuel spaced inner.names branches (group :: parts) rest
        | _ => none
    | '[' :: s => do
      let (p, rest) ← readBracketed spaced s
      readPattern fuel spaced names branches (p :: parts) rest
    | '\x7b' :: s => do
      let (min, max, rest) ← readBounds spaced s
      -- A repetition is that of the part before it, of which there has to be one.
      let parts ← repeatLast min max parts
      readPattern fuel spaced names branches parts (skipLazy (skip spaced rest))
    | '\\' :: s => do
      let (atom, rest) ← readEscape spaced s
      let p := match atom with
        | .literal l => Pattern.literal l
        | .assertion a => .assertion a
        | .property negated query => .property negated query
        | .perl negated c => .perl negated c
      readPattern fuel spaced names branches (p :: parts) rest
    | '.' :: s => readPattern fuel spaced names branches (.dot :: parts) s
    | '^' :: s => readPattern fuel spaced names branches (.assertion .startLine :: parts) s
    | '$' :: s => readPattern fuel spaced names branches (.assertion .endLine :: parts) s
    -- Signs that have not been met so far have no meaning of their own here.
    | c :: s =>
      match repetitionSign? c with
      | some (min, max) => do
        let parts ← repeatLast min max parts
        readPattern fuel spaced names branches parts (skipLazy s)
      | none => readPattern fuel spaced names branches (.literal ⟨c, false⟩ :: parts) s

/-- Reads a whole pattern. Every step takes at least one character. -/
def Pattern.read? (s : List Char) : Option Pattern := do
  let r ← readPattern (s.length + 1) false [] [] [] s
  if r.rest.isEmpty && r.pattern.depth ≤ depthLimit then some r.pattern else none

end Regex

end EntityScript
