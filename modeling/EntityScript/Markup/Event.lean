import EntityScript.Text.Occurrence

/-!
# Markup events

A document is read as a sequence of events: tags, texts, character data, and what a template passes
over (comments, declarations, processing instructions, document types). The reader checks that an
end tag closes the innermost open element; it does not look at attributes, but a quoted `>` does
not end a tag. The sequence ends with the document or with the first fault, which has a byte
offset.
-/

namespace EntityScript

namespace Markup

/-! ### Events and faults -/

/-- An event of a document. -/
inductive Event where
  | start (name : String)
  | stop (name : String)
  /-- An element without content. -/
  | empty (name : String)
  /-- A text with its references as written. -/
  | text (raw : String)
  /-- Character data, taken as it is. -/
  | data (s : String)
  /-- A comment, declaration, processing instruction or document type. -/
  | aside
deriving DecidableEq, Repr

/-- Why a document cannot be read on. -/
inductive Fault where
  | unclosedTag
  | unclosedData
  | unclosedComment
  | unclosedDoctype
  | unclosedInstruction
  | unknownMarkup
  | namelessDoctype
  | mismatchedEnd (expected found : String)
  | unmatchedEnd (found : String)
deriving DecidableEq, Repr

namespace Fault

/-- The message of a fault. -/
def message : Fault → String
  | unclosedTag => "syntax error: tag not closed: `>` not found before end of input"
  | unclosedData => "syntax error: CDATA not closed: `]]>` not found before end of input"
  | unclosedComment => "syntax error: comment not closed: `-->` not found before end of input"
  | unclosedDoctype => "syntax error: DOCTYPE not closed: `>` not found before end of input"
  | unclosedInstruction =>
    "syntax error: processing instruction or xml declaration not closed: `?>` not found " ++
      "before end of input"
  | unknownMarkup => "syntax error: unknown or missed symbol in markup"
  | namelessDoctype =>
    "ill-formed document: `<!DOCTYPE>` declaration does not contain a name of a document type"
  | mismatchedEnd expected found =>
    "ill-formed document: expected `</" ++ expected ++ ">`, but `</" ++ found ++ ">` was found"
  | unmatchedEnd found =>
    "ill-formed document: close tag `</" ++ found ++ ">` does not match any open tag"

end Fault

/-- How a sequence of events ends. -/
inductive Ending where
  | complete
  | fault (f : Fault) (offset : Nat)
deriving DecidableEq, Repr

/-- The events of a document and how they end. -/
structure Reading where
  events : List Event
  ending : Ending
deriving DecidableEq, Repr

/-! ### Ends of markup -/

/-- The character is white space of markup. -/
def isSpace (c : Char) : Bool :=
  c = ' ' || c = '\r' || c = '\n' || c = '\t'

/-- The text before the first `>` at which `ends` accepts what stands before it, last character
first, and the text after it. -/
def splitAtAngle (ends : List Char → Bool) (before : List Char) :
    List Char → Option (List Char × List Char)
  | [] => none
  | c :: s =>
    if c = '>' && ends before then some (before.reverse, s)
    else splitAtAngle ends (c :: before) s

/-- The text of a tag before the first `>` outside quotes, and the text after it. -/
def splitTag (quote : Option Char) (before : List Char) :
    List Char → Option (List Char × List Char)
  | [] => none
  | c :: s =>
    match quote with
    | some q => splitTag (if c = q then none else quote) (c :: before) s
    | none =>
      if c = '>' then some (before.reverse, s)
      else splitTag (if c = '\'' || c = '"' then some c else none) (c :: before) s

/-- A comment ends at two hyphens, which are not those of its start. -/
def endsComment (before : List Char) : Bool :=
  before.length > 4 && "--".toList.isPrefixOf before

/-- Character data ends at two brackets. -/
def endsData (before : List Char) : Bool :=
  "]]".toList.isPrefixOf before

/-- A document type ends where every angle bracket inside it is closed. -/
def endsDoctype (before : List Char) : Bool :=
  before.count '<' == before.count '>'

/-- A processing instruction ends at a question mark. -/
def endsInstruction (before : List Char) : Bool :=
  "?".toList.isPrefixOf before

/-! ### One piece of markup -/

/-- What a piece of markup is read as: an event and the text after it, or a fault; the offset of a
fault is counted from the start of the markup. -/
inductive Piece where
  | event (e : Event) (rest : List Char)
  | fault (f : Fault) (distance : Nat)

/-- Markup that starts with an exclamation mark. -/
def bangPiece (s : List Char) : Piece :=
  match s with
  -- The second character decides where the markup ends, before its name is looked at.
  | '!' :: '[' :: _ =>
    match splitAtAngle endsData [] s with
    | none => .fault .unclosedData 0
    | some (content, rest) =>
      if "![CDATA[".toList.isPrefixOf content then
        .event (.data (String.ofList ((content.drop 8).dropLast.dropLast))) rest
      else .fault .unclosedData 0
  | '!' :: '-' :: _ =>
    match splitAtAngle endsComment [] s with
    | none => .fault .unclosedComment 0
    | some (content, rest) =>
      if "!--".toList.isPrefixOf content then .event .aside rest else .fault .unclosedComment 0
  | '!' :: d :: _ =>
    if d = 'D' || d = 'd' then
      match splitAtAngle endsDoctype [] s with
      | none => .fault .unclosedDoctype 0
      | some (content, rest) =>
        if "!doctype".toList.isPrefixOf (content.map Char.toLower) then
          if (content.drop 8).all isSpace then
            -- Reported at the closing bracket, where the name is missing.
            .fault .namelessDoctype (1 + Text.byteLength content)
          else .event .aside rest
        else .fault .unclosedDoctype 0
    else .fault .unknownMarkup 0
  | _ => .fault .unknownMarkup 0

/-- Markup that starts with a question mark. -/
def instructionPiece (s : List Char) : Piece :=
  match splitAtAngle endsInstruction [] s with
  | none => .fault .unclosedInstruction 0
  | some (content, rest) =>
    if content.length > 1 then .event .aside rest else .fault .unclosedInstruction 0

/-- The name of a closing tag: all of it but white space at its end. -/
def closingName (content : List Char) : List Char :=
  let trimmed := (content.reverse.dropWhile isSpace).reverse
  -- A name of nothing but white space is kept for the message of the fault.
  if trimmed.isEmpty then content else trimmed

/-- The name of a tag: all of it up to the first white space. -/
def tagName (content : List Char) : String :=
  String.ofList (content.takeWhile (!isSpace ·))

/-- A closing tag, when the elements `opened` are open, the innermost first. -/
def closingPiece (opened : List String) (s : List Char) : Piece :=
  match splitTag none [] s with
  | none => .fault .unclosedTag 0
  | some (content, rest) =>
    let name := String.ofList (closingName (content.drop 1))
    match opened with
    | [] => .fault (.unmatchedEnd name) 0
    | expected :: _ =>
      if name = expected then .event (.stop name) rest
      else .fault (.mismatchedEnd expected name) 0

/-- An opening tag, or a tag that is both. -/
def openingPiece (s : List Char) : Piece :=
  match splitTag none [] s with
  | none => .fault .unclosedTag 0
  | some (content, rest) =>
    if content.getLast? = some '/' then .event (.empty (tagName content.dropLast)) rest
    else .event (.start (tagName content)) rest

/-- The piece of markup after a `<`. -/
def markupPiece (opened : List String) (s : List Char) : Piece :=
  match s with
  | [] => .fault .unclosedTag 0
  | '!' :: _ => bangPiece s
  | '/' :: _ => closingPiece opened s
  | '?' :: _ => instructionPiece s
  | _ => openingPiece s

/-! ### Documents -/

/-- The open elements after an event. -/
def openedAfter (opened : List String) : Event → List String
  | .start name => name :: opened
  | .stop _ => opened.tail
  | _ => opened

/-- The events of what is left of a document, of which at most `fuel` are read. -/
def readWithin : Nat → (opened : List String) → (offset : Nat) → List Char → Reading
  | 0, _, _, _ => ⟨[], .complete⟩
  | _ + 1, _, _, [] => ⟨[], .complete⟩
  | fuel + 1, opened, offset, '<' :: s =>
    match markupPiece opened s with
    | .fault f distance => ⟨[], .fault f (offset + distance)⟩
    | .event e rest =>
      -- What the event took is counted in bytes, as the offset of a fault is.
      let taken := 1 + (Text.byteLength s - Text.byteLength rest)
      let later := readWithin fuel (openedAfter opened e) (offset + taken) rest
      ⟨e :: later.events, later.ending⟩
  | fuel + 1, opened, offset, s =>
    let raw := s.takeWhile (· != '<')
    let later := readWithin fuel opened (offset + Text.byteLength raw) (s.dropWhile (· != '<'))
    ⟨.text (String.ofList raw) :: later.events, later.ending⟩

/-- The events of a document. A byte-order mark at its start is no part of it. Every event takes at
least one character. -/
def read (s : String) : Reading :=
  let s := match s.toList with
    | '\ufeff' :: s => s
    | s => s
  readWithin (s.length + 1) [] 0 s

end Markup

end EntityScript
