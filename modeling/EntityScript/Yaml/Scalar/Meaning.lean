import EntityScript.Json.Numeral
import EntityScript.Yaml.Scalar.Quoted

/-!
# Meanings of plain scalars

Which plain scalars stand for null, truth values and numbers. Integers are decimal, or have a prefix
that gives the base; a decimal one of several digits that begins with zero is a text.
-/

namespace EntityScript

namespace Yaml

/-! ### Null and truth values -/

/-- The text stands for null when something is written. -/
def isNullWord (s : List Char) : Bool :=
  ["null", "Null", "NULL", "~"].contains (String.ofList s)

/-- The truth value that a text stands for. -/
def boolOf? (s : List Char) : Option Bool :=
  let word := String.ofList s
  if ["true", "True", "TRUE"].contains word then some true
  else if ["false", "False", "FALSE"].contains word then some false
  else none

/-! ### Integers -/

/-- The number that digits of a base write. -/
def digitsValue? (base : Nat) (s : List Char) : Option Nat :=
  if s.isEmpty then none
  else s.foldl (fun n c => do
    let d ← hexDigitValue? c
    if d < base then some (base * (← n) + d) else none) (some 0)

/-- The digits and the base of a number without a sign. -/
def splitBase : List Char → Nat × List Char
  | '0' :: 'x' :: s => (16, s)
  | '0' :: 'o' :: s => (8, s)
  | '0' :: 'b' :: s => (2, s)
  | s => (10, s)

/-- The text without one sign. -/
def dropSign : List Char → List Char
  | '+' :: s | '-' :: s => s
  | s => s

/-- Digits of which the first one is a needless zero, after at most one sign. -/
def hasNeedlessZero (s : List Char) : Bool :=
  match dropSign s with
  | '0' :: c :: s => (c :: s).all Char.isDigit
  | _ => false

/-- The natural number below `bound` that a text without a minus stands for. -/
def naturalOf? (bound : Nat) (s : List Char) : Option Nat :=
  let unsigned := match s with
    | '+' :: s => s
    | s => s
  if hasNeedlessZero s then none
  else
    let (base, digits) := splitBase unsigned
    (digitsValue? base digits).filter (· < bound)

/-- The absolute value, at most `bound`, of the number that a text with a minus stands for. -/
def negativeOf? (bound : Nat) (s : List Char) : Option Nat :=
  match s with
  | '-' :: unsigned =>
    if hasNeedlessZero s then none
    else
      let (base, digits) := splitBase unsigned
      (digitsValue? base digits).filter (· ≤ bound)
  | _ => none

/-- The integer that a text stands for, if it fits in the given number of bits: without a sign when
it is not negative, and with one when it is. -/
def integerOf? (bits : Nat) (s : List Char) : Option Int :=
  match naturalOf? (Nat.pow 2 bits) s with
  | some n => some n
  | none => (negativeOf? (Nat.pow 2 (bits - 1)) s).map fun n => -(n : Int)

/-! ### Other numbers -/

/-- The exponent that a text writes; none of an empty text. -/
def exponentOf? : List Char → Option (Option (Bool × List Char))
  | [] => some none
  | e :: s =>
    let digits := dropSign s
    if (e == 'e' || e == 'E') && !digits.isEmpty && digits.all Char.isDigit then
      some (some (startsWith '-' s, digits))
    else none

/-- The decimal number that a text writes, perhaps with a point and an exponent. -/
def decimalOf? (s : List Char) : Option Json.Numeral := do
  let negative := startsWith '-' s
  let s := dropSign s
  let whole := s.takeWhile Char.isDigit
  let s := s.dropWhile Char.isDigit
  let (fraction, s) := match s with
    | '.' :: s => (s.takeWhile Char.isDigit, s.dropWhile Char.isDigit)
    | s => ([], s)
  let exponent ← exponentOf? s
  if whole.isEmpty && fraction.isEmpty then none
  else some ⟨negative, whole, fraction, exponent⟩

/-- The text stands for a number that is no integer: a decimal one that is not too large, an
infinity, or no number at all. -/
def isFloat (s : List Char) : Bool :=
  let unsigned := match s with
    | '+' :: s => s
    | s => s
  if unsigned.length < s.length && (startsWith '+' unsigned || startsWith '-' unsigned) then false
  else
    [".inf", ".Inf", ".INF"].contains (String.ofList unsigned) ||
    ["-.inf", "-.Inf", "-.INF", ".nan", ".NaN", ".NAN"].contains (String.ofList s) ||
    (decimalOf? unsigned).any (!·.isOutOfRange)

/-! ### Texts -/

/-- A plain scalar of this text would stand for something else than the text, or might. -/
def needsQuotes (s : List Char) : Bool :=
  s.isEmpty || isNullWord s || (boolOf? s).isSome || (integerOf? 128 s).isSome ||
    hasNeedlessZero s || isFloat s

end Yaml

end EntityScript
