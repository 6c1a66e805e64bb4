import EntityScript.Regex.Expr

/-!
# The size of expressions

An expression that would need too large a machine is refused. The machine reads bytes of UTF-8: a
set of characters is a small automaton over byte ranges, in which equal parts are shared, and a
bounded repetition is written out. The size of an expression is the memory of that machine, counted
in bytes for the states and for what they lead to.
-/

namespace EntityScript

namespace Regex

open Unicode (CharSet)

/-- The memory of a state. -/
def stateSize : Nat :=
  32

/-- The memory of a transition on a range of bytes. -/
def transitionSize : Nat :=
  8

/-- The memory of a branch to another state. -/
def branchSize : Nat :=
  4

/-- The largest machine that is built. -/
def sizeLimit : Nat :=
  10 * 1024 * 1024

/-! ### Byte sequences -/

/-- A sequence of byte ranges; it stands for all sequences of bytes from them. -/
abbrev ByteSequence := List (Nat × Nat)

/-- The bytes of UTF-8 of a code point, when it is written in `count + 1` bytes. -/
def continuationBytes : Nat → Nat → List Nat → List Nat
  | 0, n, bytes => n :: bytes
  | count + 1, n, bytes => continuationBytes count (n / 64) ((0x80 + n % 64) :: bytes)

/-- The bytes of UTF-8 of a code point. -/
def utf8Bytes (n : Nat) : List Nat :=
  if n < 0x80 then [n]
  else
    let count := if n < 0x800 then 1 else if n < 0x10000 then 2 else 3
    let mark := if n < 0x800 then 0xC0 else if n < 0x10000 then 0xE0 else 0xF0
    match continuationBytes count n [] with
    | [] => []
    | b :: bytes => (mark + b) :: bytes

/-- Splits a range at the code points from which on more bytes are needed. -/
def splitByLength (r : Nat × Nat) : List (Nat × Nat) :=
  [(0, 0x7F), (0x80, 0x7FF), (0x800, 0xFFFF), (0x10000, 0x10FFFF)].flatMap
    (CharSet.within [r])

/-- Splits a range of code points of one length so that each part is one sequence of byte ranges:
below its first different byte a part runs through all continuation bytes. -/
def splitByBytes (block : Nat) : Nat → Nat × Nat → List (Nat × Nat)
  | 0, r => [r]
  | fuel + 1, (a, b) =>
    if block = 1 then [(a, b)]
    else if a / block = b / block then splitByBytes (block / 64) fuel (a, b)
    else
      let first := (a + block - 1) / block * block
      let last := (b + 1) / block * block
      (if a < first then splitByBytes (block / 64) fuel (a, first - 1) else []) ++
        (if first < last then [(first, last - 1)] else []) ++
        (if last ≤ b then splitByBytes (block / 64) fuel (last, b) else [])

/-- The byte sequences of a set of characters. -/
def byteSequences (s : CharSet) : List ByteSequence :=
  (s.flatMap splitByLength).flatMap fun r =>
    let block := if r.2 < 0x80 then 1 else if r.2 < 0x800 then 64
      else if r.2 < 0x10000 then 0x1000 else 0x40000
    (splitByBytes block 4 r).map fun q => (utf8Bytes q.1).zip (utf8Bytes q.2)

/-! ### Shared states -/

/-- The first bytes at which the sequences begin to differ. -/
def cutPoints (sequences : List ByteSequence) : List Nat :=
  (sequences.filterMap (·.head?)).flatMap fun r => [r.1, r.2 + 1]

/-- A state of the automaton: what may still be read. -/
abbrev ByteState := List ByteSequence

/-- Where a state leads to, for each range of bytes that is not divided further. -/
def successors (state : ByteState) : List ByteState :=
  let points := (CharSet.normalize ((cutPoints state).map fun n => (2 * n, 2 * n))).map (·.1 / 2)
  (points.map fun n =>
    state.filterMap fun
      | [] => none
      | r :: later => if r.1 ≤ n && n ≤ r.2 then some later else none).filter (!·.isEmpty)

/-- The states after one byte, each once. -/
def nextStates (states : List ByteState) : List ByteState :=
  (states.flatMap successors).eraseDups

/-- The memory of the automaton that begins with the given states, all read to the end within
`fuel` bytes. -/
def automatonSize : Nat → List ByteState → Nat
  | 0, _ => 0
  | fuel + 1, states =>
    let states := states.filter (·.any (!·.isEmpty))
    if states.isEmpty then 0
    else
      (states.map fun state => stateSize + transitionSize * (successors state).length).sum +
        automatonSize fuel (nextStates states)

/-- The memory of a set of characters, read forwards or backwards. -/
def setSize (backwards : Bool) (s : CharSet) : Nat :=
  if s.all (·.2 < 0x80) then 2 * stateSize + transitionSize * s.length
  else
    let sequences := byteSequences s
    let sequences := if backwards then sequences.map List.reverse else sequences
    stateSize + automatonSize 4 [sequences]

/-! ### Expressions -/

/-- The expression matches nothing but empty parts of the text. -/
def Expr.onlyEmpty : Expr → Bool
  | .empty | .look _ => true
  | .set _ => false
  | .concat a b => a.onlyEmpty && b.onlyEmpty
  | .alternate a b => a.onlyEmpty && b.onlyEmpty
  | .repetition _ max a => a.onlyEmpty || max == some 0
  | .capture a => a.onlyEmpty

/-- The memory of an expression. -/
def Expr.size (backwards : Bool) : Expr → Nat
  | .empty => stateSize
  | .set s => setSize backwards s
  | .look _ => stateSize
  | .concat a b => a.size backwards + b.size backwards
  | .alternate a b => a.size backwards + b.size backwards + stateSize + 2 * branchSize
  | .repetition min max a =>
    let min := if a.onlyEmpty then Nat.min min 1 else min
    let max := if a.onlyEmpty then some ((max.map (Nat.min 1)).getD 1) else max
    let copy := a.size backwards
    let choice := copy + stateSize + 2 * branchSize
    match max with
    | none => (min - 1) * copy + choice + stateSize
    | some max => min * copy + (max - min) * choice + stateSize
  | .capture a => a.size backwards + 2 * stateSize

/-- The machine of the expression is not too large, in either direction. -/
def Expr.fits (e : Expr) : Bool :=
  e.size false ≤ sizeLimit && e.size true ≤ sizeLimit

end Regex

end EntityScript
