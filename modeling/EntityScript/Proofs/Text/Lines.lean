import EntityScript.Proofs.Text.Ascii
import EntityScript.Proofs.Text.Digits

/-!
# Lines

A text is divided into lines by its line feeds (`lines`). A line feed in front of more text ends
the lines before it (`lines_append_cons`), and a start without line feeds only makes the first line
longer (`lines_append_of_eq_cons`).

A text without line feeds (`IsSingle`) is a line of its own (**`IsSingle.lines_concat`**), and each
line is such a text (`isSingle_of_mem_lines`). Changing its case puts no line feed into it
(`IsSingle.lower`, `IsSingle.upper`, `IsSingle.capitalize`).
-/

namespace EntityScript

namespace Text

open Case

/-! ### Lines of a text -/

/-- The lines of a text, without the line feeds that end them. -/
def lines : List Char → List (List Char)
  | [] => []
  | c :: s =>
    if c = '\n' then [] :: lines s
    else match lines s with
      | [] => [[c]]
      | l :: ls => (c :: l) :: ls

/-- No line feed stands in the text. -/
def IsSingle (s : List Char) : Prop :=
  '\n' ∉ s

instance (s : List Char) : Decidable (IsSingle s) :=
  inferInstanceAs (Decidable (_ ∉ _))

@[simp] theorem isSingle_cons {c : Char} {s : List Char} :
    IsSingle (c :: s) ↔ c ≠ '\n' ∧ IsSingle s := by
  simp only [IsSingle, List.mem_cons, not_or, ne_comm (a := c), ne_eq]

@[simp] theorem isSingle_append {s t : List Char} :
    IsSingle (s ++ t) ↔ IsSingle s ∧ IsSingle t := by
  simp only [IsSingle, List.mem_append, not_or]

theorem IsSingle.of_subset {s t : List Char} (h : IsSingle t) (hs : s ⊆ t) : IsSingle s :=
  fun hmem => h (hs hmem)

theorem lines_lineFeed_cons (s : List Char) : lines ('\n' :: s) = [] :: lines s :=
  if_pos rfl

theorem lines_cons_of_eq_cons {c : Char} {s l : List Char} {ls : List (List Char)}
    (hc : c ≠ '\n') (h : lines s = l :: ls) : lines (c :: s) = (c :: l) :: ls := by
  rw [lines, if_neg hc, h]

/-- A start without line feeds belongs to the first line. The mark of a log is such a start. -/
theorem lines_append_of_eq_cons {p s l : List Char} {ls : List (List Char)} (hp : IsSingle p)
    (h : lines s = l :: ls) : lines (p ++ s) = (p ++ l) :: ls := by
  induction p with
  | nil => exact h
  | cons c p ih =>
    obtain ⟨hc, hp⟩ := isSingle_cons.mp hp
    exact lines_cons_of_eq_cons hc (ih hp)

/-- A text with a line feed after it has a first line, which may be empty. -/
theorem exists_lines_concat (s : List Char) : ∃ l ls, lines (s ++ ['\n']) = l :: ls := by
  induction s with
  | nil => exact ⟨[], [], rfl⟩
  | cons c s ih =>
    obtain ⟨l, ls, h⟩ := ih
    by_cases hc : c = '\n'
    · exact ⟨[], l :: ls, by rw [hc, List.cons_append, lines_lineFeed_cons, h]⟩
    · exact ⟨c :: l, ls, lines_cons_of_eq_cons hc h⟩

/-- **Lines of a text in two parts**, of which the first one ends with a line feed: they are those
of the one and then those of the other. -/
theorem lines_append_cons (s t : List Char) :
    lines (s ++ '\n' :: t) = lines (s ++ ['\n']) ++ lines t := by
  induction s with
  | nil => exact lines_lineFeed_cons t
  | cons c s ih =>
    obtain ⟨l, ls, h⟩ := exists_lines_concat s
    rw [h, List.cons_append] at ih
    by_cases hc : c = '\n'
    · rw [hc, List.cons_append, List.cons_append, lines_lineFeed_cons, lines_lineFeed_cons, ih, h]
      rfl
    · rw [List.cons_append, List.cons_append, lines_cons_of_eq_cons hc ih,
        lines_cons_of_eq_cons hc h]
      rfl

/-- Texts that are each ended by a line feed have the lines of the one and then of the other. A log
is such a text. -/
theorem lines_flatMap_concat (ss : List (List Char)) :
    lines (ss.flatMap (· ++ ['\n'])) = ss.flatMap fun s => lines (s ++ ['\n']) := by
  induction ss with
  | nil => rfl
  | cons s ss ih =>
    rw [List.flatMap_cons, List.flatMap_cons, List.append_assoc, List.singleton_append,
      lines_append_cons, ih]

/-! ### Texts of one line -/

/-- A line has no line feed, as lines are what stands between these. The induction is on the
text. -/
theorem isSingle_of_mem_lines {s l : List Char} (h : l ∈ lines s) : IsSingle l := by
  induction s generalizing l with
  | nil => cases h
  | cons c s ih =>
    by_cases hc : c = '\n'
    · rw [hc, lines_lineFeed_cons] at h
      rcases List.mem_cons.mp h with rfl | h
      · exact List.not_mem_nil
      · exact ih h
    · -- The character joins the first line of the rest, if there is one.
      cases hs : lines s with
      | nil =>
        rw [lines, if_neg hc, hs, List.mem_singleton] at h
        rw [h]
        exact isSingle_cons.mpr ⟨hc, List.not_mem_nil⟩
      | cons k ks =>
        rw [lines_cons_of_eq_cons hc hs] at h
        rcases List.mem_cons.mp h with rfl | h
        · exact isSingle_cons.mpr ⟨hc, ih (hs ▸ List.mem_cons_self)⟩
        · exact ih (hs ▸ List.mem_cons_of_mem _ h)

/-- **A text without line feeds** is a line of its own. Its line is ended by the line feed behind
it. -/
theorem IsSingle.lines_concat {s : List Char} (h : IsSingle s) : lines (s ++ ['\n']) = [s] := by
  rw [lines_append_of_eq_cons h (lines_lineFeed_cons []), List.append_nil]
  rfl

theorem isSingle_repr (n : Nat) : IsSingle (toString n).toList := by
  intro h
  rw [Nat.toString_eq_repr, Nat.toList_repr] at h
  exact absurd (isDigit_of_mem_toDigits h) (by decide)

/-! ### Case -/

/-- No code point after that of the line feed gives a line feed. -/
theorem isSingle_ofNat {n : Nat} (h : 0xA < n) : IsSingle [Char.ofNat n] := by
  intro hmem
  have hn : (Char.ofNat n).toNat = 0xA := congrArg Char.toNat (List.mem_singleton.mp hmem).symm
  rcases toNat_ofNat_cases n with h' | h' <;> omega

theorem shifts_far : ∀ s ∈ lowerShifts ++ upperShifts,
    s.last < 0x80 ∨ 0xA < s.first + s.distance := by
  decide +kernel

/-- A shift makes no line feed of a character outside of ASCII. The shifts of the table stay far
from it. -/
theorem isSingle_shiftBy {shifts : List Shift} (hshifts : shifts ⊆ lowerShifts ++ upperShifts)
    {n : Nat} (hn : 0x80 ≤ n) : IsSingle [Char.ofNat (shiftBy shifts n)] := by
  refine isSingle_ofNat ?_
  rw [shiftBy]
  split
  · next s hs =>
    have hcovers := List.find?_some hs
    simp only [Shift.covers, Bool.and_eq_true, decide_eq_true_eq] at hcovers
    rw [Shift.move]
    rcases shifts_far s (hshifts (List.mem_of_find?_eq_some hs)) with hlast | hfar <;> omega
  · omega

/-- No character but the line feed is lowered to one. In ASCII this is checked, and outside of it
the table of shifts is. -/
theorem isSingle_lowerChar {c : Char} (h : c ≠ '\n') : IsSingle (lowerChar c) := by
  by_cases hascii : c.toNat < 0x80
  · rw [lowerChar, if_pos hascii]
    exact of_ascii (P := fun c => c ≠ '\n' → IsSingle [c.toLower]) (by decide) hascii h
  · rw [lowerChar, if_neg hascii]
    split
    · decide
    · exact isSingle_shiftBy (List.subset_append_left _ _) (Nat.not_lt.mp hascii)

theorem isSingle_upperExpansions : ∀ e ∈ upperExpansions, IsSingle (e.2.map Char.ofNat) := by
  decide +kernel

/-- No character but the line feed is raised to one. The forms of several characters are checked one
by one. -/
theorem isSingle_upperChar {c : Char} (h : c ≠ '\n') : IsSingle (upperChar c) := by
  by_cases hascii : c.toNat < 0x80
  · rw [upperChar, if_pos hascii]
    exact of_ascii (P := fun c => c ≠ '\n' → IsSingle [c.toUpper]) (by decide) hascii h
  · rw [upperChar, if_neg hascii]
    split
    · next hfound => exact isSingle_upperExpansions _ (List.mem_of_find?_eq_some hfound)
    · exact isSingle_shiftBy (List.subset_append_right _ _) (Nat.not_lt.mp hascii)

/-- Lowering puts no line feed into a text, whatever stands before it. The final form of sigma is
one character, like the other one. -/
theorem IsSingle.lowerAfter {s : List Char} (h : IsSingle s) (afterCased : Bool) :
    IsSingle (lowerAfter afterCased s) := by
  induction s generalizing afterCased with
  | nil => exact List.not_mem_nil
  | cons c s ih =>
    obtain ⟨hc, hs⟩ := isSingle_cons.mp h
    refine isSingle_append.mpr ⟨?_, ih hs _⟩
    split
    · split <;> decide
    · exact isSingle_lowerChar hc

theorem IsSingle.lower {s : List Char} (h : IsSingle s) : IsSingle (lower s) :=
  h.lowerAfter false

/-- The upper-case form of a text of one line is a line. Characters are raised one by one. -/
theorem IsSingle.upper {s : List Char} (h : IsSingle s) : IsSingle (upper s) := by
  intro hmem
  obtain ⟨c, hc, hform⟩ := List.mem_flatMap.mp hmem
  exact isSingle_upperChar (fun heq => h (heq ▸ hc)) hform

/-- A first letter in upper case puts no line feed into a text. -/
theorem IsSingle.capitalize {s : List Char} (h : IsSingle s) : IsSingle (capitalize s) := by
  cases s with
  | nil => exact h
  | cons c s =>
    obtain ⟨hc, hs⟩ := isSingle_cons.mp h
    exact isSingle_append.mpr ⟨isSingle_upperChar hc, hs⟩

end Text

end EntityScript
