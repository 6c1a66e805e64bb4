import EntityScript.Text.Case.Table

/-!
# Upper and lower case

The full case mappings of Unicode. A character may map to several (`ß` to `SS`, `İ` to `i` and a
dot above), and the lower-case form of a capital sigma depends on its neighbours: it is the final
form `ς` after a cased letter and before none, ignorable marks passed over.
-/

namespace EntityScript

namespace Text

open Case

/-! ### Characters -/

/-- The lower-case form of a character outside any context. -/
def lowerChar (c : Char) : List Char :=
  if c.toNat < 0x80 then [c.toLower]
  else if c.toNat = 0x130 then ['i', Char.ofNat 0x307]
  else [Char.ofNat (shiftBy lowerShifts c.toNat)]

/-- The upper-case form of a character. -/
def upperChar (c : Char) : List Char :=
  if c.toNat < 0x80 then [c.toUpper]
  else match upperExpansions.find? (·.1 == c.toNat) with
    | some (_, form) => form.map Char.ofNat
    | none => [Char.ofNat (shiftBy upperShifts c.toNat)]

/-- The character is a letter that has case. -/
def isCased (c : Char) : Bool :=
  inRanges casedRanges c.toNat

/-- The character is passed over when the neighbours of a sigma are examined. -/
def isCaseIgnorable (c : Char) : Bool :=
  inRanges ignorableRanges c.toNat

/-! ### Texts -/

/-- The first character that is not ignorable is cased. -/
def startsCased (s : List Char) : Bool :=
  match s.dropWhile isCaseIgnorable with
  | [] => false
  | c :: _ => isCased c

/-- The lower-case form of a text, given whether a cased letter stands before it. -/
def lowerAfter (afterCased : Bool) : List Char → List Char
  | [] => []
  | c :: s =>
    let form :=
      if c = 'Σ' then [if afterCased && !startsCased s then 'ς' else 'σ'] else lowerChar c
    form ++ lowerAfter (if isCaseIgnorable c then afterCased else isCased c) s

/-- The lower-case form of a text. -/
def lower (s : List Char) : List Char :=
  lowerAfter false s

/-- The upper-case form of a text. -/
def upper (s : List Char) : List Char :=
  s.flatMap upperChar

/-- The text with its first character in upper case. -/
def capitalize : List Char → List Char
  | [] => []
  | c :: s => upperChar c ++ s

/-! ### Strings -/

/-- The lower-case form of a string. -/
def lowercase (s : String) : String :=
  String.ofList (lower s.toList)

/-- The upper-case form of a string. -/
def uppercase (s : String) : String :=
  String.ofList (upper s.toList)

/-- The string with its first character in upper case. -/
def titlecase (s : String) : String :=
  String.ofList (capitalize s.toList)

@[simp] theorem toList_lowercase (s : String) : (lowercase s).toList = lower s.toList :=
  String.toList_ofList

@[simp] theorem toList_uppercase (s : String) : (uppercase s).toList = upper s.toList :=
  String.toList_ofList

@[simp] theorem toList_titlecase (s : String) : (titlecase s).toList = capitalize s.toList :=
  String.toList_ofList

/-- The ASCII letters of a string in lower case, every other character as it is. -/
def asciiLower (s : String) : String :=
  String.ofList (s.toList.map Char.toLower)

/-- The two strings are equal when ASCII letters are compared without regard to case. -/
def eqIgnoringAsciiCase (s t : String) : Bool :=
  s.toList.map Char.toLower == t.toList.map Char.toLower

end Text

end EntityScript
