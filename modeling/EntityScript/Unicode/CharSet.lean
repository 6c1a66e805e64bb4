import EntityScript.Text.Case.Table

/-!
# Sets of characters

A set of characters is a list of ranges of code points, in ascending order and with a gap between
any two. `normalize` brings any list of ranges into this form; the operations of set algebra keep
it. Complements are taken within the characters, so they leave out the surrogates.
-/

namespace EntityScript

namespace Unicode

/-- A set of characters, as ranges of code points. -/
abbrev CharSet := List (Nat × Nat)

namespace CharSet

/-- The largest code point. -/
def lastPoint : Nat :=
  0x10FFFF

/-- The code point belongs to the set. -/
def mem (s : CharSet) (n : Nat) : Bool :=
  s.any fun r => r.1 ≤ n && n ≤ r.2

/-- The character belongs to the set. -/
def contains (s : CharSet) (c : Char) : Bool :=
  s.mem c.toNat

/-! ### Normal form -/

/-- Joins the ranges of an ascending list that touch or overlap; `current` is the range that is
still growing. -/
def joinRanges (current : Nat × Nat) : CharSet → CharSet
  | [] => [current]
  | r :: rs =>
    if r.1 ≤ current.2 + 1 then joinRanges (current.1, max current.2 r.2) rs
    else current :: joinRanges r rs

/-- The set of all code points in the ranges, whatever their order. -/
def normalize (ranges : List (Nat × Nat)) : CharSet :=
  match ranges.mergeSort (fun a b => a.1 ≤ b.1) with
  | [] => []
  | r :: rs => joinRanges r rs

/-- The set of one character. -/
def single (n : Nat) : CharSet :=
  [(n, n)]

/-! ### Set algebra -/

/-- The code points that belong to one of the sets. -/
def union (s t : CharSet) : CharSet :=
  normalize (s ++ t)

/-- The gaps between the ranges, from the code point `start` on. -/
def gapsFrom (start : Nat) : CharSet → CharSet
  | [] => if start ≤ lastPoint then [(start, lastPoint)] else []
  | (a, b) :: rs => if start < a then (start, a - 1) :: gapsFrom (b + 1) rs else gapsFrom (b + 1) rs

/-- The characters that do not belong to the set. -/
def complement (s : CharSet) : CharSet :=
  -- Halves of surrogate pairs are no characters, so they are in no complement.
  gapsFrom 0 (normalize ((0xD800, 0xDFFF) :: s))

/-- The part of the set within a range. -/
def within (s : CharSet) (r : Nat × Nat) : CharSet :=
  s.filterMap fun q =>
    let a := max q.1 r.1
    let b := min q.2 r.2
    if a ≤ b then some (a, b) else none

/-- The code points that belong to both sets. -/
def inter (s t : CharSet) : CharSet :=
  normalize (t.flatMap s.within)

/-- The code points of the first set that do not belong to the second. -/
def diff (s t : CharSet) : CharSet :=
  s.inter t.complement

/-- The code points that belong to just one of the sets. -/
def symmDiff (s t : CharSet) : CharSet :=
  (s.diff t).union (t.diff s)

/-! ### Case -/

/-- The character that a character folds to. -/
def foldPoint (n : Nat) : Nat :=
  Text.Case.shiftBy Text.Case.foldShifts n

/-- The other characters that fold to `target`. -/
def foldedTo (target : Nat) : List Nat :=
  Text.Case.foldShifts.filterMap fun s =>
    let n := ((target : Int) - s.distance).toNat
    if s.covers n then some n else none

/-- All characters equal to a character up to case. -/
def orbit (n : Nat) : CharSet :=
  let target := foldPoint n
  normalize ((target :: foldedTo target).map fun m => (m, m))

/-- The characters that a shift moves, with their images. -/
def shiftPairs (s : Text.Case.Shift) : List (Nat × Nat) :=
  (List.range ((s.last - s.first) / s.step + 1)).map fun i =>
    (s.first + i * s.step, s.move (s.first + i * s.step))

/-- Every character that folds to another one, with that one. -/
def foldPairs : List (Nat × Nat) :=
  Text.Case.foldShifts.flatMap shiftPairs

/-- All characters equal up to case to one of the set. -/
def foldCase (s : CharSet) : CharSet :=
  match s with
  | [(a, b)] =>
    -- A single character has an orbit of its own, which needs no search through the table.
    if a = b then orbit a else foldAll s
  | s => foldAll s
where
  /-- Goes through all pairs of characters that are equal up to case. -/
  foldAll (s : CharSet) : CharSet :=
    let targets := normalize <| foldPairs.filterMap fun (n, t) =>
      if s.mem n || s.mem t then some (t, t) else none
    let sources := foldPairs.filterMap fun (n, t) => if targets.mem t then some (n, n) else none
    normalize (s ++ targets ++ sources)

/-! ### Written form -/

/-- The number that hexadecimal digits write; upper case. -/
def hexNumber (s : List Char) : Nat :=
  s.foldl (fun n c => 16 * n + if c.isDigit then c.toNat - 48 else c.toNat - 55) 0

/-- The ranges of one written item: `A` is a code point, `A-B` a range, and `A-B/2` every second
code point from `A` to `B`. -/
def itemRanges (item : List Char) : List (Nat × Nat) :=
  let first := hexNumber (item.takeWhile Char.isAlphanum)
  match item.dropWhile Char.isAlphanum with
  | '-' :: s =>
    let last := hexNumber (s.takeWhile Char.isAlphanum)
    match s.dropWhile Char.isAlphanum with
    | [] => [(first, last)]
    -- Letters of both cases often alternate, so every second code point is written in short.
    | _ => (List.range ((last - first) / 2 + 1)).map fun i => (first + 2 * i, first + 2 * i)
  | _ => [(first, first)]

/-- The ranges of items separated by blanks and line ends; `item` holds the characters of the
current item, last one first. -/
def readItems (item : List Char) : List Char → List (Nat × Nat)
  | [] => if item.isEmpty then [] else itemRanges item.reverse
  | c :: s =>
    if c = ' ' || c = '\n' then
      (if item.isEmpty then [] else itemRanges item.reverse) ++ readItems [] s
    else readItems (c :: item) s

/-- The set of a written list of ranges. -/
def ofText (s : String) : CharSet :=
  normalize (readItems [] s.toList)

end CharSet

end Unicode

end EntityScript
