import EntityScript.Yaml.Cursor

/-!
# Gaps in scalars

Inside a plain or quoted scalar, separators between two words are folded. Within a line they stay
as they are. A single line end becomes a space, and of several the first one is dropped; spaces
around line ends are dropped too.
-/

namespace EntityScript

namespace Yaml

/-- The separators between two words of a scalar. -/
structure Gap where
  /-- The gap goes over the end of a line. -/
  folds : Bool := false
  /-- The separators in a gap within a line. -/
  blanks : List Char := []
  /-- The first line end. -/
  firstBreak : List Char := []
  /-- The line ends after the first one. -/
  moreBreaks : List Char := []

namespace Gap

/-- The text that stands for a gap. -/
def text (g : Gap) : List Char :=
  if !g.folds then g.blanks
  else if g.firstBreak.head? = some '\n' then
    if g.moreBreaks.isEmpty then [' '] else g.moreBreaks
  else g.firstBreak ++ g.moreBreaks

/-- The gap with a line end added. -/
def addBreak (g : Gap) (lineEnd : List Char) : Gap :=
  if g.folds then { g with moreBreaks := g.moreBreaks ++ lineEnd }
  else { g with folds := true, blanks := [], firstBreak := lineEnd }

end Gap

/-- Reads on through a gap. After a line end no tab may stand before the column `margin`. -/
def readGapWithin (margin : Nat) : Nat → Gap → Cursor → Option (Gap × Cursor)
  | 0, g, c => some (g, c)
  | fuel + 1, g, c =>
    match c.rest with
    | [] => some (g, c)
    | d :: _ =>
      if isGap d then
        if g.folds then
          if d == '\t' && c.column < margin then none
          else readGapWithin margin fuel g (c.advance 1)
        else readGapWithin margin fuel { g with blanks := g.blanks ++ [d] } (c.advance 1)
      else if isBreak d then readGapWithin margin fuel (g.addBreak c.breakText) c.nextLine
      else some (g, c)

/-- Reads on through a gap that has begun as `g`. -/
def readGap (margin : Nat) (g : Gap) (c : Cursor) : Option (Gap × Cursor) :=
  readGapWithin margin c.rest.length g c

end Yaml

end EntityScript
