import EntityScript.Yaml.Scalar.Gap

/-!
# Plain scalars

A scalar without quotes ends before a comment, before a colon that a separator follows, at a line
that is not indented enough, and inside brackets before any of their indicators.
-/

namespace EntityScript

namespace Yaml

/-- The character is an indicator inside brackets. -/
def isFlowIndicator (c : Char) : Bool :=
  c == ',' || c == '[' || c == ']' || c == '\x7b' || c == '\x7d'

/-- The word of a plain scalar at the start of the text. Inside brackets no colon may stand right
before an indicator. -/
def plainWord (inFlow : Bool) : List Char → Option (List Char)
  | [] => some []
  | c :: s =>
    if isSeparator c then some []
    else if inFlow && c == ':' && s.head?.any (fun d => isFlowIndicator d || d == '?') then none
    else if c == ':' && endsWord s then some []
    else if inFlow && isFlowIndicator c then some []
    else (plainWord inFlow s).map (c :: ·)

/-- A scalar that has been read. -/
structure PlainScalar where
  text : List Char
  /-- The place after the scalar and the separators behind it. -/
  after : Cursor
  /-- A line ended behind the scalar. -/
  endsLine : Bool

/-- Reads on in a plain scalar, of which `text` has been read and then the gap `g`. -/
def readPlainWithin (inFlow : Bool) (margin : Nat) :
    Nat → List Char → Gap → Cursor → Option PlainScalar
  | 0, text, g, c => some ⟨text, c, g.folds⟩
  | fuel + 1, text, g, c =>
    if c.atDocumentMarker || startsWith '#' c.rest then some ⟨text, c, g.folds⟩
    else do
      let word ← plainWord inFlow c.rest
      if word.isEmpty then some ⟨text, c, g.folds⟩
      else
        let text := text ++ g.text ++ word
        let c := c.advance word.length
        if c.atGap || c.atBreak then
          let (g, c) ← readGap margin {} c
          if !inFlow && c.column < margin then some ⟨text, c, g.folds⟩
          else readPlainWithin inFlow margin fuel text g c
        else some ⟨text, c, false⟩

/-- Reads a plain scalar, whose further lines start at the column `margin` or after it. -/
def readPlain (inFlow : Bool) (margin : Nat) (c : Cursor) : Option PlainScalar :=
  readPlainWithin inFlow margin (c.rest.length + 1) [] {} c

end Yaml

end EntityScript
