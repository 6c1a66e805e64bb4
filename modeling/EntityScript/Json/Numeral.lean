/-!
# Numerals

A JSON number as it is written: sign, whole digits, digits after the point, exponent. Integers are
the numerals without point and exponent whose value fits in 64 bits; minus zero is not one of them.
A numeral is out of range when its value rounds to no finite number of 64-bit floating point.
-/

namespace EntityScript

namespace Json

/-- A number as written. There is a point exactly when there are digits after it. -/
structure Numeral where
  negative : Bool
  whole : List Char
  fraction : List Char
  /-- Whether the exponent is negative, and its digits. -/
  exponent : Option (Bool × List Char)
deriving DecidableEq, Repr

/-- The value of a decimal digit. -/
def digitValue (c : Char) : Nat :=
  c.toNat - 48

/-- The value of a run of decimal digits. -/
def digitsValue (digits : List Char) : Nat :=
  digits.foldl (fun n c => 10 * n + digitValue c) 0

/-- The decimal digits of a natural number. -/
def naturalDigits (n : Nat) : List Char :=
  (Nat.toDigits 10 n)

namespace Numeral

/-- The numeral of an integer. -/
def ofInt (i : Int) : Numeral :=
  ⟨i < 0, naturalDigits i.natAbs, [], none⟩

/-- The digits before and after the point, read as one natural number. -/
def significand (n : Numeral) : Nat :=
  digitsValue (n.whole ++ n.fraction)

/-- The power of ten that scales the significand. -/
def scale (n : Numeral) : Int :=
  let exponent : Int := match n.exponent with
    | none => 0
    | some (negative, digits) => if negative then -digitsValue digits else digitsValue digits
  exponent - n.fraction.length

/-- The least value that rounds beyond every finite 64-bit floating-point number. -/
def overflowBound : Nat :=
  Nat.pow 2 1024 - Nat.pow 2 970

/-- The value rounds to no finite floating-point number. -/
def isOutOfRange (n : Numeral) : Bool :=
  if n.significand = 0 then false
  else if n.scale < 0 then
    -- A value of fewer whole digits than the bound has is below it.
    (n.whole.length : Int) + n.fraction.length + n.scale ≥ 309 &&
      overflowBound * Nat.pow 10 n.scale.natAbs ≤ n.significand
  else n.scale > 309 || overflowBound ≤ n.significand * Nat.pow 10 n.scale.natAbs

/-- The integer of 64 bits that the numeral writes, if it is one. -/
def int? (n : Numeral) : Option Int :=
  if n.fraction ≠ [] || n.exponent.isSome then none
  else
    let m := digitsValue n.whole
    if n.negative then if 0 < m && m ≤ 0x8000000000000000 then some (-m) else none
    else if m < 0x10000000000000000 then some m else none

/-- The numeral as text. -/
def toList (n : Numeral) : List Char :=
  (if n.negative then ['-'] else []) ++ n.whole ++
    (if n.fraction = [] then [] else '.' :: n.fraction) ++
    match n.exponent with
    | none => []
    | some (negative, digits) => 'e' :: (if negative then '-' :: digits else digits)

end Numeral

end Json

end EntityScript
