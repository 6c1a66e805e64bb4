/-!
# Blanks

White space is the Unicode property of that name: the ASCII controls from tab to carriage return,
the space, and the wider spaces and separators. Texts are lists of characters; trimming at the
start drops the longest blank run.
-/

namespace EntityScript

namespace Text

/-- The character is white space. -/
def isBlank (c : Char) : Bool :=
  let n := c.toNat
  (9 ≤ n && n ≤ 13) || n == 0x20 || n == 0x85 || n == 0xA0 || n == 0x1680 ||
    (0x2000 ≤ n && n ≤ 0x200A) || n == 0x2028 || n == 0x2029 || n == 0x202F || n == 0x205F ||
    n == 0x3000

/-- What follows the blanks at the start of a text. -/
def trimStart (s : List Char) : List Char :=
  s.dropWhile isBlank

/-- The text holds nothing but blanks. -/
def allBlank (s : List Char) : Bool :=
  s.all isBlank

theorem trimStart_eq_self {c : Char} {s : List Char} (h : isBlank c = false) :
    trimStart (c :: s) = c :: s := by
  simp only [trimStart, List.dropWhile_cons, h, Bool.false_eq_true, if_false]

theorem takeWhile_append_trimStart (s : List Char) : s.takeWhile isBlank ++ trimStart s = s :=
  List.takeWhile_append_dropWhile

theorem length_trimStart_le (s : List Char) : (trimStart s).length ≤ s.length :=
  (List.dropWhile_sublist isBlank).length_le

end Text

end EntityScript
