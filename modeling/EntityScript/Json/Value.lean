import EntityScript.Json.Numeral

/-!
# JSON values

Values with the members of an object in their order, duplicates included, and the compact text of
a value: no blanks, and in strings only the quote, the backslash and control characters escaped.
-/

namespace EntityScript

namespace Json

/-- A JSON value. -/
inductive Value where
  | null
  | bool (b : Bool)
  | number (n : Numeral)
  | string (s : String)
  | array (items : List Value)
  | object (members : List (String × Value))
deriving Inhabited

namespace Value

/-- The number of an integer. -/
def int (i : Int) : Value :=
  .number (.ofInt i)

/-- The number of a natural number. -/
def nat (n : Nat) : Value :=
  .int n

/-- The value if there is one, else null. -/
def option {α : Type} (encode : α → Value) : Option α → Value
  | none => .null
  | some a => encode a

/-- The array of the encoded elements. -/
def list {α : Type} (encode : α → Value) (as : List α) : Value :=
  .array (as.map encode)

end Value

/-! ### Compact text -/

/-- A hexadecimal digit, lower case. -/
def hexDigit (n : Nat) : Char :=
  Nat.digitChar (n % 16)

/-- The written form of a character inside a string. -/
def escapeChar (c : Char) : List Char :=
  match c with
  | '"' => ['\\', '"']
  | '\\' => ['\\', '\\']
  | '\n' => ['\\', 'n']
  | '\r' => ['\\', 'r']
  | '\t' => ['\\', 't']
  | c =>
    if c.toNat = 8 then ['\\', 'b']
    else if c.toNat = 12 then ['\\', 'f']
    else if c.toNat < 0x20 then
      ['\\', 'u', '0', '0', hexDigit (c.toNat / 16), hexDigit c.toNat]
    else [c]

/-- The written form of a string, quotes included. -/
def quote (s : List Char) : List Char :=
  '"' :: s.flatMap escapeChar ++ ['"']

/-- The parts with a comma between any two. -/
def commaSeparated : List (List Char) → List Char
  | [] => []
  | [part] => part
  | part :: parts => part ++ ',' :: commaSeparated parts

mutual

/-- The compact text of a value. -/
def Value.toList : Value → List Char
  | .null => "null".toList
  | .bool true => "true".toList
  | .bool false => "false".toList
  | .number n => n.toList
  | .string s => quote s.toList
  | .array items => '[' :: commaSeparated (Value.toLists items) ++ [']']
  | .object members => '\x7b' :: commaSeparated (Value.memberLists members) ++ ['\x7d']

/-- The compact texts of the items of an array. -/
def Value.toLists : List Value → List (List Char)
  | [] => []
  | v :: vs => v.toList :: Value.toLists vs

/-- The compact texts of the members of an object. -/
def Value.memberLists : List (String × Value) → List (List Char)
  | [] => []
  | (key, v) :: members => (quote key.toList ++ ':' :: v.toList) :: Value.memberLists members

end

/-- The compact text of a value, as a string. -/
def Value.compact (v : Value) : String :=
  String.ofList v.toList

end Json

end EntityScript
