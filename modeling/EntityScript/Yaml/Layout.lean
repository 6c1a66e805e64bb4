import EntityScript.Yaml.Scalar.Block
import EntityScript.Yaml.Scalar.Plain
import EntityScript.Yaml.Scalar.Quoted
import EntityScript.Yaml.Tag
import EntityScript.Yaml.Token

/-!
# Layout

The tokens of a YAML text, with the structure that only its layout shows. Outside brackets the
columns at which collections start are kept on a stack; a line that starts further left ends them.
A scalar, an alias or a bracket may turn out to be a key when a colon follows; until then it is a
candidate, one for every level of brackets. The token of the key is put before the candidate when
the colon is met.
-/

namespace EntityScript

namespace Yaml

/-- The start of what may turn out to be a key. -/
structure KeyCandidate where
  /-- The number of tokens before it. -/
  place : Nat
  index : Nat
  line : Nat
  column : Nat
  /-- It stands where its collection can only have a key. -/
  isRequired : Bool

/-- The number of characters that a key without an indicator may be long. -/
def keyLimit : Nat :=
  1024

namespace KeyCandidate

/-- The place read has gone beyond the line of the candidate, or too far in it. -/
def isStale (k : KeyCandidate) (c : Cursor) : Bool :=
  k.line < c.line || k.index + keyLimit < c.index

end KeyCandidate

/-- What has been read of a text. -/
structure Layout where
  cursor : Cursor
  tokens : Array Token := #[]
  /-- The columns of the open block collections, innermost first. -/
  columns : List Nat := []
  /-- The candidate of the current level of brackets. -/
  candidate : Option KeyCandidate := none
  /-- The candidates of the levels outside, innermost first. -/
  outerCandidates : List (Option KeyCandidate) := []
  /-- A key may stand here. -/
  allowsKey : Bool := true

namespace Layout

/-! ### Levels and columns -/

/-- The place is inside brackets. -/
def inFlow (l : Layout) : Bool :=
  !l.outerCandidates.isEmpty

/-- The least column of what belongs to the innermost block collection. -/
def margin (l : Layout) : Nat :=
  match l.columns with
  | [] => 0
  | column :: _ => column + 1

/-- The layout with one more token. -/
def emit (l : Layout) (t : Token) : Layout :=
  { l with tokens := l.tokens.push t }

/-- The layout with a token of some length. -/
def emitMark (l : Layout) (t : Token) (length : Nat) : Layout :=
  { l with tokens := l.tokens.push t, cursor := l.cursor.advance length }

/-- The layout with a token put at a place among the others. -/
def insert (l : Layout) (place : Nat) (t : Token) : Layout :=
  { l with tokens := l.tokens.extract 0 place ++ #[t] ++ l.tokens.extract place l.tokens.size }

/-- Ends the block collections that start right of the column; all of them if there is none. -/
def closeTo (l : Layout) (column : Option Nat) : Layout :=
  -- Inside brackets columns have no meaning.
  if l.inFlow then l
  else
    let isOpen (x : Nat) : Bool := match column with
      | none => true
      | some n => n < x
    let closed := l.columns.takeWhile isOpen
    { l with
      columns := l.columns.drop closed.length
      tokens := l.tokens ++ Array.replicate closed.length Token.blockEnd }

/-- Starts a block collection at a column, unless it is one that goes on; its token is put at the
place. -/
def openAt (l : Layout) (column place : Nat) (t : Token) : Layout :=
  if l.inFlow || column < l.margin then l
  else { l.insert place t with columns := column :: l.columns }

/-! ### Keys -/

/-- Forgets the candidate, unless it has to be a key. -/
def dropCandidate (l : Layout) : Option Layout :=
  if l.candidate.any (·.isRequired) then none else some { l with candidate := none }

/-- Makes what starts here a candidate, if a key may stand here. -/
def addCandidate (l : Layout) : Option Layout :=
  if l.allowsKey then do
    -- What stands in the column of the mapping around it can be nothing but a key.
    let isRequired := !l.inFlow && l.columns.head? == some l.cursor.column
    let k : KeyCandidate :=
      ⟨l.tokens.size, l.cursor.index, l.cursor.line, l.cursor.column, isRequired⟩
    let l ← l.dropCandidate
    some { l with candidate := some k }
  else some l

/-- The candidate, unless it is stale. -/
def freshOnly (c : Cursor) : Option KeyCandidate → Option (Option KeyCandidate)
  | none => some none
  | some k => if k.isStale c then (if k.isRequired then none else some none) else some (some k)

/-- Forgets the stale candidates of all levels. -/
def dropStale (l : Layout) : Option Layout := do
  let candidate ← freshOnly l.cursor l.candidate
  let outerCandidates ← l.outerCandidates.mapM (freshOnly l.cursor)
  some { l with candidate, outerCandidates }

/-! ### The way to the next token -/

/-- Goes on to the next token, over separators and comments. Outside brackets no tab may stand
where a key could. -/
def skipToToken : Nat → Layout → Layout
  | 0, l => l
  | fuel + 1, l =>
    let c := l.cursor
    let c := if c.column == 0 && startsWith byteOrderMark c.rest then c.advance 1 else c
    -- Outside of brackets a tab is no indentation.
    let tabs := l.inFlow || !l.allowsKey
    let c := (c.skip fun d => d == ' ' || (tabs && d == '\t')).skipComment
    if c.atBreak then
      skipToToken fuel { l with cursor := c.nextLine, allowsKey := l.allowsKey || !l.inFlow }
    else { l with cursor := c }

/-! ### Tokens -/

/-- Reads a directive. -/
def fetchDirective (l : Layout) : Option Layout := do
  -- Directives and markers stand between documents, so all that is open ends.
  let l ← (l.closeTo none).dropCandidate
  let (directive, cursor) ← readDirective l.cursor
  let t : Token := match directive with
    | .version major minor => .versionDirective major minor
    | .tag handle replacement => .tagDirective handle replacement
  some { l.emit t with cursor, allowsKey := false }

/-- Reads the marker of the start or the end of a document. -/
def fetchDocumentMarker (l : Layout) (t : Token) : Option Layout := do
  let l ← (l.closeTo none).dropCandidate
  some { l.emitMark t 3 with allowsKey := false }

/-- Reads an opening bracket. -/
def fetchOpening (l : Layout) (t : Token) : Option Layout := do
  let l ← l.addCandidate
  some { l.emitMark t 1 with
    -- A collection in brackets may be a key by itself, so its candidate is kept for its end.
    candidate := none
    outerCandidates := l.candidate :: l.outerCandidates
    allowsKey := true }

/-- Reads a closing bracket. -/
def fetchClosing (l : Layout) (t : Token) : Option Layout := do
  let l ← l.dropCandidate
  let l := match l.outerCandidates with
    | [] => l
    | candidate :: outerCandidates => { l with candidate, outerCandidates }
  some { l.emitMark t 1 with allowsKey := false }

/-- Reads a comma inside brackets. -/
def fetchComma (l : Layout) : Option Layout := do
  let l ← l.dropCandidate
  some { l.emitMark .flowEntry 1 with allowsKey := true }

/-- Reads the dash of an item. -/
def fetchDash (l : Layout) : Option Layout := do
  -- A sequence may begin only where a key may.
  if !l.inFlow && !l.allowsKey then none
  let l := l.openAt l.cursor.column l.tokens.size .blockSequenceStart
  let l ← l.dropCandidate
  some { l.emitMark .blockEntry 1 with allowsKey := true }

/-- Reads the question mark of a key. -/
def fetchQuestionMark (l : Layout) : Option Layout := do
  if !l.inFlow && !l.allowsKey then none
  let l := l.openAt l.cursor.column l.tokens.size .blockMappingStart
  let l ← l.dropCandidate
  some { l.emitMark .key 1 with allowsKey := !l.inFlow }

/-- Reads the colon of a value. -/
def fetchColon (l : Layout) : Option Layout :=
  match l.candidate with
  | some k =>
    -- What was read before turns out to be a key, and perhaps the first of a mapping.
    let l := (l.insert k.place .key).openAt k.column k.place .blockMappingStart
    some { l.emitMark .value 1 with candidate := none, allowsKey := false }
  | none => do
    if !l.inFlow && !l.allowsKey then none
    let l := l.openAt l.cursor.column l.tokens.size .blockMappingStart
    some { l.emitMark .value 1 with allowsKey := !l.inFlow }

/-- Reads an alias or an anchor. -/
def fetchName (l : Layout) (t : List Char → Token) : Option Layout := do
  let l ← l.addCandidate
  let (name, cursor) ← readName l.cursor
  some { l.emit (t name) with cursor, allowsKey := false }

/-- Reads a tag. -/
def fetchTag (l : Layout) : Option Layout := do
  let l ← l.addCandidate
  let ((handle, suffix), cursor) ← readTag l.inFlow l.cursor
  some { l.emit (.tag handle suffix) with cursor, allowsKey := false }

/-- Reads a block scalar. -/
def fetchBlock (l : Layout) (folded : Bool) : Option Layout := do
  let l ← l.dropCandidate
  let (text, cursor) ← readBlock folded l.margin l.cursor
  let style := if folded then ScalarStyle.folded else .literal
  some { l.emit (.scalar style text) with cursor, allowsKey := true }

/-- Reads a quoted scalar. -/
def fetchQuoted (l : Layout) (quote : Char) (style : ScalarStyle) : Option Layout := do
  let l ← l.addCandidate
  let (text, cursor) ← readQuoted quote l.cursor
  some { l.emit (.scalar style text) with cursor, allowsKey := false }

/-- Reads a plain scalar. -/
def fetchPlain (l : Layout) : Option Layout := do
  let l ← l.addCandidate
  let s ← readPlain l.inFlow l.margin l.cursor
  some { l.emit (.scalar .plain s.text) with cursor := s.after, allowsKey := s.endsLine }

/-- The characters that cannot begin a plain scalar, whatever follows. -/
def indicators : List Char :=
  ",[]\x7b\x7d#&*!|>'\"%@`".toList

/-- A plain scalar can begin here. -/
def startsPlain (l : Layout) : Bool :=
  match l.cursor.rest with
  | [] => false
  | c :: s =>
    if isSeparator c || indicators.contains c then false
    else if c == '-' then !s.head?.any isGap
    else if c == '?' || c == ':' then !l.inFlow && !endsWord s
    else true

/-- Reads the token at the cursor. -/
def fetch (l : Layout) : Option Layout :=
  let c := l.cursor
  match c.rest with
  | [] => none
  | d :: s =>
    -- The order of these questions matters: a marker begins with a dash, and a plain scalar may
    -- too.
    if c.column = 0 ∧ d = '%' then l.fetchDirective
    else if c.atMarker '-' then l.fetchDocumentMarker .documentStart
    else if c.atMarker '.' then l.fetchDocumentMarker .documentEnd
    else if d = '[' then l.fetchOpening .flowSequenceStart
    else if d = '\x7b' then l.fetchOpening .flowMappingStart
    else if d = ']' then l.fetchClosing .flowSequenceEnd
    else if d = '\x7d' then l.fetchClosing .flowMappingEnd
    else if d = ',' then l.fetchComma
    else if d = '-' ∧ endsWord s then l.fetchDash
    else if d = '?' ∧ (l.inFlow || endsWord s) then l.fetchQuestionMark
    else if d = ':' ∧ (l.inFlow || endsWord s) then l.fetchColon
    else if d = '*' then l.fetchName .alias
    else if d = '&' then l.fetchName .anchor
    else if d = '!' then l.fetchTag
    else if d = '|' ∧ !l.inFlow then l.fetchBlock false
    else if d = '>' ∧ !l.inFlow then l.fetchBlock true
    else if d = '\'' then l.fetchQuoted '\'' .singleQuoted
    else if d = '"' then l.fetchQuoted '"' .doubleQuoted
    -- What is left begins a plain scalar, or nothing at all.
    else if l.startsPlain then l.fetchPlain
    else none

/-- Ends what is open at the end of the text. -/
def finish (l : Layout) : Option Layout :=
  (l.closeTo none).dropCandidate

/-- Reads on to the end of the text. -/
def readAll : Nat → Layout → Option Layout
  | 0, _ => none
  | fuel + 1, l => do
    let l := skipToToken (l.cursor.rest.length + 1) l
    let l ← l.dropStale
    -- The column of the next token tells which collections end before it.
    let l := l.closeTo (some l.cursor.column)
    if l.cursor.rest.isEmpty then l.finish
    else readAll fuel (← l.fetch)

end Layout

/-- The tokens of a text. -/
def tokens? (s : List Char) : Option (List Token) :=
  if s.all isAllowed then
    (Layout.readAll (s.length + 1) { cursor := { rest := s } }).map (·.tokens.toList)
  else none

end Yaml

end EntityScript
