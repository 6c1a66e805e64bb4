import EntityScript.Text.Case

/-!
# ASCII in lower case

In a text of ASCII only capital letters change when it is lowered, each by itself
(`lower_eq_map`). Outside of ASCII two characters have forms with letters of ASCII: the Kelvin sign
lowers to `k`, and the dotted capital `İ` to `i` with a combining dot. So a text of the other small
letters (`IsPlain`) is the lower-case form of the texts that differ from it in nothing but the
case of ASCII letters, and of no others (**`lower_eq_iff`**).
-/

namespace EntityScript

namespace Text

open Case

/-! ### Texts of ASCII -/

/-- All characters of the text are those of ASCII. -/
def IsAscii (s : List Char) : Prop :=
  ∀ c ∈ s, c.toNat < 0x80

-- The characters of the text are tried, not all characters there are.
instance (s : List Char) : Decidable (IsAscii s) :=
  List.decidableBAll (fun c : Char => c.toNat < 0x80) s

theorem isAscii_cons {c : Char} {s : List Char} :
    IsAscii (c :: s) ↔ c.toNat < 0x80 ∧ IsAscii s :=
  List.forall_mem_cons

/-- What holds of the first 128 code points holds of the characters of ASCII. So a statement about
these can be decided. -/
theorem of_ascii {P : Char → Prop} (h : ∀ n < 0x80, P (Char.ofNat n)) {c : Char}
    (hc : c.toNat < 0x80) : P c :=
  Char.ofNat_toNat c ▸ h c.toNat hc

/-- Lowering letters of ASCII leaves all other characters alone. -/
theorem toLower_of_not_ascii {c : Char} (h : 0x80 ≤ c.toNat) : c.toLower = c := by
  refine dif_neg fun hupper => ?_
  have hlast : c.toNat ≤ 0x5A := hupper.2
  omega

/-- A character of ASCII has one lower-case form, which is one character. -/
theorem lowerChar_of_ascii {c : Char} (h : c.toNat < 0x80) : lowerChar c = [c.toLower] :=
  if_pos h

theorem ne_sigma_of_ascii {c : Char} (h : c.toNat < 0x80) : c ≠ 'Σ' := by
  rintro rfl
  exact absurd h (by decide)

/-- In ASCII the context does not matter, so a text is lowered letter by letter wherever it
stands. -/
theorem lowerAfter_eq_map {s : List Char} (h : IsAscii s) (afterCased : Bool) :
    lowerAfter afterCased s = s.map Char.toLower := by
  induction s generalizing afterCased with
  | nil => rfl
  | cons c s ih =>
    obtain ⟨hc, hs⟩ := isAscii_cons.mp h
    rw [lowerAfter, ih hs, if_neg (ne_sigma_of_ascii hc), lowerChar_of_ascii hc]
    rfl

/-- **A text of ASCII is lowered letter by letter.** There is no sigma in it, and no form of several
characters. -/
theorem lower_eq_map {s : List Char} (h : IsAscii s) : lower s = s.map Char.toLower :=
  lowerAfter_eq_map h false

/-- Lowering stays within ASCII. It is done by going from one character of ASCII to another. -/
theorem IsAscii.lower {s : List Char} (h : IsAscii s) : IsAscii (lower s) := by
  rw [lower_eq_map h]
  intro c hc
  obtain ⟨d, hd, rfl⟩ := List.mem_map.mp hc
  exact of_ascii (P := fun d => d.toLower.toNat < 0x80) (by decide) (h d hd)

theorem map_toLower_lower {s : List Char} (h : IsAscii s) :
    (lower s).map Char.toLower = lower s := by
  rw [lower_eq_map h, List.map_map]
  exact List.map_congr_left fun c hc =>
    of_ascii (P := fun c => c.toLower.toLower = c.toLower) (by decide) (h c hc)

/-! ### Plain letters -/

/-- A small letter of ASCII to which no character outside of ASCII is lowered. -/
def IsPlainLetter (c : Char) : Prop :=
  0x61 ≤ c.toNat ∧ c.toNat ≤ 0x7A ∧ c ≠ 'k'

instance (c : Char) : Decidable (IsPlainLetter c) :=
  inferInstanceAs (Decidable (_ ∧ _ ∧ _))

/-- The text consists of plain letters. -/
def IsPlain (s : List Char) : Prop :=
  ∀ c ∈ s, IsPlainLetter c

instance (s : List Char) : Decidable (IsPlain s) :=
  List.decidableBAll IsPlainLetter s

/-- Plain letters are small. -/
theorem IsPlainLetter.toLower_eq {c : Char} (h : IsPlainLetter c) : c.toLower = c := by
  refine dif_neg fun hupper => ?_
  have hfirst : 0x61 ≤ c.toNat := h.1
  have hlast : c.toNat ≤ 0x5A := hupper.2
  omega

/-- A number that is no code point stands for the character of number zero. So a shift that misses
the code points is of no harm here. -/
theorem toNat_ofNat_cases (n : Nat) :
    (Char.ofNat n).toNat = n ∨ (Char.ofNat n).toNat = 0 := by
  by_cases h : n.isValidChar
  · rw [Char.ofNat, dif_pos h]
    exact .inl rfl
  · rw [Char.ofNat, dif_neg h]
    exact .inr rfl

theorem not_isPlainLetter_ofNat {n : Nat} (h : 0x80 ≤ n) : ¬ IsPlainLetter (Char.ofNat n) := by
  rintro ⟨hfirst, hlast, -⟩
  rcases toNat_ofNat_cases n with hn | hn <;> omega

/-- Outside of ASCII only the Kelvin sign has a form of one character in ASCII. The shifts of the
table are gone through one by one. -/
theorem lowerShifts_cases : ∀ s ∈ lowerShifts, s.last < 0x80 ∨ 0x80 ≤ s.first + s.distance ∨
    (s.first = 0x212A ∧ s.last = 0x212A ∧ s.distance = -8383) := by
  decide +kernel

/-- A character outside of ASCII has a character in its lower-case form that is no plain letter. The
one form of two characters has a combining mark, and the shifts are those of the table. -/
theorem exists_mem_lowerChar {c : Char} (h : 0x80 ≤ c.toNat) :
    ∃ d ∈ lowerChar c, ¬ IsPlainLetter d := by
  rw [lowerChar, if_neg (Nat.not_lt.mpr h)]
  split
  · exact ⟨_, List.mem_cons_of_mem _ List.mem_cons_self, not_isPlainLetter_ofNat (by decide)⟩
  · refine ⟨_, List.mem_cons_self, ?_⟩
    rw [shiftBy]
    split
    · next s hs =>
      have hcovers := List.find?_some hs
      simp only [Shift.covers, Bool.and_eq_true, decide_eq_true_eq] at hcovers
      rcases lowerShifts_cases s (List.mem_of_find?_eq_some hs) with hlast | hshift | hkelvin
      · omega
      · refine not_isPlainLetter_ofNat ?_
        rw [Shift.move]
        omega
      · obtain ⟨hfirst, hlast, hdistance⟩ := hkelvin
        have hc : c.toNat = 0x212A := by omega
        rw [Shift.move, hdistance, hc]
        decide
    · exact not_isPlainLetter_ofNat h

/-- What is lowered to plain letters is a text of ASCII. A character outside of ASCII would leave a
trace that is no plain letter. -/
theorem isAscii_of_lowerAfter {s : List Char} {afterCased : Bool}
    (h : IsPlain (lowerAfter afterCased s)) : IsAscii s := by
  induction s generalizing afterCased with
  | nil => exact fun c hc => absurd hc List.not_mem_nil
  | cons c s ih =>
    rw [lowerAfter] at h
    obtain ⟨hform, hrest⟩ := List.forall_mem_append.mp h
    refine isAscii_cons.mpr ⟨Nat.not_le.mp fun hc => ?_, ih hrest⟩
    split at hform
    · have hsigma := hform _ List.mem_cons_self
      split at hsigma <;> exact absurd hsigma (by decide)
    · obtain ⟨d, hd, hplain⟩ := exists_mem_lowerChar hc
      exact hplain (hform d hd)

theorem IsPlain.map_toLower {s : List Char} (h : IsPlain s) : s.map Char.toLower = s :=
  (List.map_congr_left fun c hc => (h c hc).toLower_eq).trans (List.map_id _)

/-- **Plain letters** are reached in lower case only by changing the case of letters of ASCII. So
for a plain name it does not matter which of the two ways of lowering is used. -/
theorem lower_eq_iff {s t : List Char} (h : IsPlain t) :
    lower s = t ↔ s.map Char.toLower = t := by
  constructor
  · rintro rfl
    exact (lower_eq_map (isAscii_of_lowerAfter h)).symm
  · rintro rfl
    refine lower_eq_map fun c hc => Nat.not_le.mp fun hout => ?_
    have hplain := h c.toLower (List.mem_map_of_mem hc)
    rw [toLower_of_not_ascii hout] at hplain
    have := hplain.2.1
    omega

end Text

end EntityScript
