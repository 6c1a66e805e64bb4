import EntityScript.Text.Occurrence

/-!
# References

In a text, `&name;` stands for a character: one of the five predefined names, or its number in
decimal or hexadecimal digits.
-/

namespace EntityScript

namespace Markup

/-- Why the number of a character cannot be read. -/
inductive NumberFault where
  | noDigits
  | signed
  | badDigit
  | tooLarge
  | zero
  | noCharacter (n : Nat)
deriving DecidableEq, Repr

namespace NumberFault

/-- The message of a fault. -/
def message : NumberFault → String
  | noDigits => "cannot parse integer from empty string"
  | signed => "unexpected number sign"
  | badDigit => "invalid digit found in string"
  | tooLarge => "number too large to fit in target type"
  | zero => "0x0 character is not permitted in XML"
  | noCharacter n => "`" ++ toString n ++ "` is not a valid codepoint"

end NumberFault

/-- Why a reference cannot be resolved; the offsets count bytes of the text. -/
inductive ReferenceFault where
  | unknownName (start stop : Nat) (name : String)
  | unterminated (start stop : Nat)
  | badNumber (f : NumberFault)
deriving DecidableEq, Repr

namespace ReferenceFault

/-- The message of a fault. -/
def message : ReferenceFault → String
  | unknownName start stop name =>
    "at " ++ toString start ++ ".." ++ toString stop ++ ": unrecognized entity `" ++ name ++ "`"
  | unterminated start stop =>
    "Error while escaping character at range " ++ toString start ++ ".." ++ toString stop ++
      ": Cannot find ';' after '&'"
  | badNumber f => "invalid character reference: " ++ f.message

end ReferenceFault

/-- The value of a digit in a base of at most sixteen. -/
def digit? (base : Nat) (c : Char) : Option Nat :=
  let n :=
    if '0' ≤ c && c ≤ '9' then c.toNat - 48
    else if 'a' ≤ c && c ≤ 'f' then c.toNat - 87
    else if 'A' ≤ c && c ≤ 'F' then c.toNat - 55
    else base
  if n < base then some n else none

/-- Reads the digits of a number of 32 bits, after those that gave `n`. -/
def readDigits (base : Nat) (n : Nat) : List Char → Except NumberFault Nat
  | [] => .ok n
  | c :: s =>
    match digit? base c with
    | none => .error .badDigit
    | some d =>
      if n * base + d < 0x100000000 then readDigits base (n * base + d) s else .error .tooLarge

/-- Reads a number of 32 bits without a sign. -/
def readNumber (base : Nat) (s : List Char) : Except NumberFault Nat :=
  match s with
  | [] => .error .noDigits
  | '+' :: _ | '-' :: _ => .error .signed
  | s => readDigits base 0 s

/-- The character of a number, as written after the `#` of a reference. -/
def numberedChar (s : List Char) : Except NumberFault Char := do
  let n ← match s with
    | 'x' :: s => readNumber 16 s
    | s => readNumber 10 s
  if n = 0 then .error .zero
  else if n.isValidChar then .ok (Char.ofNat n)
  else .error (.noCharacter n)

/-- The character of a predefined name. -/
def namedChar? (name : List Char) : Option Char :=
  if name = ['l', 't'] then some '<'
  else if name = ['g', 't'] then some '>'
  else if name = ['a', 'm', 'p'] then some '&'
  else if name = ['a', 'p', 'o', 's'] then some '\''
  else if name = ['q', 'u', 'o', 't'] then some '"'
  else none

/-- The character that `name`, found between the given offsets, stands for. -/
def resolveName (start : Nat) (name : List Char) : Except ReferenceFault Char :=
  match name with
  | '#' :: number =>
    match numberedChar number with
    | .ok c => .ok c
    | .error f => .error (.badNumber f)
  | name =>
    match namedChar? name with
    | some c => .ok c
    | none => .error (.unknownName start (start + Text.byteLength name) (String.ofList name))

/-- Resolves the references of what is left of a text. Inside a reference, `pending` holds the
offset after the ampersand and the characters read since, the last one first; `total` is the
length of the whole text. -/
def unescapeFrom (total : Nat) (pending : Option (Nat × List Char)) (offset : Nat) :
    List Char → Except ReferenceFault (List Char)
  | [] =>
    match pending with
    | none => .ok []
    | some (start, _) => .error (.unterminated (start - 1) total)
  | c :: s =>
    match pending with
    | none =>
      if c = '&' then unescapeFrom total (some (offset + 1, [])) (offset + 1) s
      else do
        let s ← unescapeFrom total none (offset + c.utf8Size) s
        .ok (c :: s)
    | some (start, before) =>
      -- An ampersand inside a reference means that the one before was not one.
      if c = '&' then .error (.unterminated (start - 1) total)
      else if c = ';' then do
        let d ← resolveName start before.reverse
        let s ← unescapeFrom total none (offset + 1) s
        .ok (d :: s)
      else unescapeFrom total (some (start, c :: before)) (offset + c.utf8Size) s

/-- The text with its references resolved. -/
def unescape (s : String) : Except ReferenceFault String :=
  (unescapeFrom (Text.byteLength s.toList) none 0 s.toList).map String.ofList

end Markup

end EntityScript
