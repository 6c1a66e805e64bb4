import EntityScript.Regex.Expr
import EntityScript.Regex.Property

/-!
# The meaning of patterns

A pattern becomes an expression once the flags are known that hold at each of its parts. Flags hold
from where they stand to the end of their group, in all branches after them. A class is closed
under case before it is negated. Without the Unicode flag only classes and characters of ASCII can
be asked for, since a text has no other single bytes.
-/

namespace EntityScript

namespace Regex

open Unicode (CharSet)

/-- The flags that hold at a part of a pattern. -/
structure Flags where
  caseInsensitive : Bool := false
  multiLine : Bool := false
  dotMatchesNewLine : Bool := false
  unicode : Bool := true
  carriageReturn : Bool := false
deriving DecidableEq, Repr

/-- The flags after one change. -/
def Flags.set (f : Flags) : Flag × Bool → Flags
  | (.caseInsensitive, b) => { f with caseInsensitive := b }
  | (.multiLine, b) => { f with multiLine := b }
  | (.dotMatchesNewLine, b) => { f with dotMatchesNewLine := b }
  | (.unicode, b) => { f with unicode := b }
  | (.carriageReturn, b) => { f with carriageReturn := b }
  | (.swapGreed, _) | (.ignoreSpace, _) => f

/-- The flags after several changes. -/
def Flags.change (f : Flags) (change : FlagChange) : Flags :=
  change.foldl Flags.set f

/-! ### Characters -/

/-- The set of one character and, for ASCII letters, its other case. -/
def asciiOrbit (n : Nat) : CharSet :=
  if 0x41 ≤ n && n ≤ 0x5A then [(n, n), (n + 0x20, n + 0x20)]
  else if 0x61 ≤ n && n ≤ 0x7A then [(n - 0x20, n - 0x20), (n, n)]
  else [(n, n)]

/-- The characters of the set and the other case of its ASCII letters. -/
def asciiFold (s : CharSet) : CharSet :=
  let letters := (List.range 0x80).filter s.mem
  CharSet.normalize (s ++ letters.flatMap asciiOrbit)

/-- The set has no characters but those of ASCII. -/
def isAsciiSet (s : CharSet) : Bool :=
  s.all (·.2 < 0x80)

/-- The bytes that do not belong to the set. -/
def byteComplement (s : CharSet) : CharSet :=
  s.complement.within (0, 0xFF)

/-- The set that a character stands for. -/
def Literal.set? (f : Flags) (l : Literal) : Option CharSet :=
  let n := l.char.toNat
  if f.unicode then some (if f.caseInsensitive then CharSet.orbit n else CharSet.single n)
  else if l.isByte && n ≥ 0x80 then none
  else some (if f.caseInsensitive then asciiOrbit n else CharSet.single n)

/-- The code point of a character in a class. -/
def Literal.point? (f : Flags) (l : Literal) : Option Nat :=
  if f.unicode || l.char.toNat < 0x80 then some l.char.toNat else none

/-! ### Classes -/

/-- The set of a class, closed under case if the flags say so and then negated. Without the Unicode
flag it must be a set of ASCII. -/
def foldAndNegate? (f : Flags) (negated : Bool) (s : CharSet) : Option CharSet :=
  if f.unicode then
    let s := if f.caseInsensitive then s.foldCase else s
    some (if negated then s.complement else s)
  else
    let s := if f.caseInsensitive then asciiFold s else s
    let s := if negated then byteComplement s else s
    if isAsciiSet s then some s else none

/-- The characters of a class that has a letter. -/
def PerlClass.unicodeSet : PerlClass → CharSet
  | .digit => CharSet.ofText Unicode.categoryNd.written
  | .space => CharSet.ofText Unicode.propertyWhiteSpace.written
  | .word => wordSet

/-- The ASCII characters of a class that has a letter. -/
def PerlClass.asciiSet : PerlClass → CharSet
  | .digit => [(0x30, 0x39)]
  | .space => [(0x09, 0x0D), (0x20, 0x20)]
  | .word => asciiWordSet

/-- The set of a class that has a letter. -/
def PerlClass.set? (f : Flags) (negated : Bool) (c : PerlClass) : Option CharSet :=
  if f.unicode then some (if negated then c.unicodeSet.complement else c.unicodeSet)
  else if negated then none
  else some c.asciiSet

/-- The set of a property. -/
def propertySet? (f : Flags) (negated : Bool) (query : PropertyQuery) : Option CharSet := do
  if !f.unicode then none
  let s ← query.set?
  foldAndNegate? f negated s

/-- The set after an operation. -/
def SetOp.apply : SetOp → CharSet → CharSet → CharSet
  | .intersection, s, t => s.inter t
  | .difference, s, t => s.diff t
  | .symmetricDifference, s, t => s.symmDiff t

/-- The set closed under case, if the flags say so. -/
def foldIf (f : Flags) (s : CharSet) : CharSet :=
  if f.caseInsensitive then (if f.unicode then s.foldCase else asciiFold s) else s

mutual

/-- The set of what stands in a class. -/
def SetExpr.set? (f : Flags) : SetExpr → Option CharSet
  | .empty => some []
  | .literal l => (l.point? f).map CharSet.single
  | .range first last => do
    let a ← first.point? f
    let b ← last.point? f
    some [(a, b)]
  | .ascii negated ranges => foldAndNegate? f negated ranges
  | .property negated query => propertySet? f negated query
  | .perl negated c => c.set? f negated
  | .bracketed negated inner => do
    let s ← inner.set? f
    foldAndNegate? f negated s
  | .union items => do
    let sets ← SetExpr.sets? f items
    some (CharSet.normalize sets.flatten)
  | .binary op lhs rhs => do
    let s ← lhs.set? f
    let t ← rhs.set? f
    some (op.apply (foldIf f s) (foldIf f t))

/-- The sets of the items of a class. -/
def SetExpr.sets? (f : Flags) : List SetExpr → Option (List CharSet)
  | [] => some []
  | e :: es => do
    let s ← e.set? f
    let ss ← SetExpr.sets? f es
    some (s :: ss)

end

/-! ### Patterns -/

/-- The set of the dot. -/
def dotSet? (f : Flags) : Option CharSet :=
  if !f.unicode then none
  else if f.dotMatchesNewLine then some (CharSet.complement [])
  else if f.carriageReturn then some (CharSet.complement [(0x0A, 0x0A), (0x0D, 0x0D)])
  else some (CharSet.complement [(0x0A, 0x0A)])

/-- The condition of an assertion. -/
def Assertion.look (f : Flags) : Assertion → Look
  | .startLine =>
    if !f.multiLine then .startText else if f.carriageReturn then .startLineCr else .startLine
  | .endLine =>
    if !f.multiLine then .endText else if f.carriageReturn then .endLineCr else .endLine
  | .startText => .startText
  | .endText => .endText
  | .wordBoundary => .boundary f.unicode
  | .notWordBoundary => .notBoundary f.unicode
  | .wordStart => .wordStart f.unicode
  | .wordEnd => .wordEnd f.unicode
  | .wordStartHalf => .wordStartHalf f.unicode
  | .wordEndHalf => .wordEndHalf f.unicode

mutual

/-- The expression of a pattern, and the flags after it. -/
def Pattern.expr? (f : Flags) : Pattern → Option (Expr × Flags)
  | .empty => some (.empty, f)
  | .flags change => some (.empty, f.change change)
  | .literal l => (l.set? f).map fun s => (.set s, f)
  | .dot => (dotSet? f).map fun s => (.set s, f)
  | .assertion a => some (.look (a.look f), f)
  | .property negated query => (propertySet? f negated query).map fun s => (.set s, f)
  | .perl negated c => (c.set? f negated).map fun s => (.set s, f)
  | .bracketed negated inner => do
    let s ← inner.set? f
    let s ← foldAndNegate? f negated s
    some (.set s, f)
  | .repetition min max sub => do
    let (e, f) ← sub.expr? f
    some (.repetition min max e, f)
  -- The flags that a group changes hold up to its end only, while `flags` hold for what follows.
  | .group captures change sub => do
    let (e, _) ← sub.expr? (f.change change)
    some (if captures then .capture e else e, f)
  | .alternation branches => Pattern.alternate? f branches
  | .concat parts => Pattern.concat? f parts

/-- The expression of the branches of an alternation, and the flags after them. -/
def Pattern.alternate? (f : Flags) : List Pattern → Option (Expr × Flags)
  | [] => some (.empty, f)
  | [p] => p.expr? f
  | p :: ps => do
    let (a, f) ← p.expr? f
    let (b, f) ← Pattern.alternate? f ps
    some (.alternate a b, f)

/-- The expression of the parts of a sequence, and the flags after them. -/
def Pattern.concat? (f : Flags) : List Pattern → Option (Expr × Flags)
  | [] => some (.empty, f)
  | [p] => p.expr? f
  | p :: ps => do
    let (a, f) ← p.expr? f
    let (b, f) ← Pattern.concat? f ps
    some (.concat a b, f)

end

end Regex

end EntityScript
