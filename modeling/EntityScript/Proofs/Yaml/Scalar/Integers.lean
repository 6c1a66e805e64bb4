import EntityScript.Proofs.Text.Digits
import EntityScript.Proofs.Yaml.Scalar.Plain
import EntityScript.Yaml.Scalar.Meaning
import Mathlib.Algebra.Group.Int.Defs
import Mathlib.Algebra.Group.Nat.Defs

/-!
# Integers in documents

The decimal digits of a number have its value and no needless zero, so the text of an integer stands
for that integer (`integerOf?_toString`). It may be written as it is (`allowsPlain_toString`).
-/

namespace EntityScript

namespace Yaml

open Text (eq_nil_of_toDigits_eq isDigit_of_mem_toDigits isDigit_of_toDigits_eq)

/-! ### Digits -/

/-- Digits are read as the number that they write. -/
theorem digitsValue?_of_isDigit {s : List Char} (hne : s ≠ []) (h : ∀ c ∈ s, c.isDigit = true) :
    digitsValue? 10 s = some (Nat.ofDigitChars 10 s 0) := by
  have hfold (n : Nat) : s.foldl (fun n c => do
      let d ← hexDigitValue? c
      if d < 10 then some (10 * (← n) + d) else none) (some n) =
      some (Nat.ofDigitChars 10 s n) := by
    clear hne
    induction s generalizing n with
    | nil => rw [List.foldl_nil, Nat.ofDigitChars_nil]
    | cons c s ih =>
      have hdigit : c.isDigit = true := h c List.mem_cons_self
      have hlt : c.toNat - 48 < 10 := by
        have hle : c.toNat ≤ 57 := (Char.isDigit_iff_toNat.mp hdigit).2
        omega
      rw [List.foldl_cons, Nat.ofDigitChars_cons,
        ← ih (fun d hd => h d (List.mem_cons_of_mem c hd))]
      simp [hexDigitValue?, hdigit, hlt]
  rw [digitsValue?, if_neg (by simpa using hne)]
  exact hfold 0

/-- A minus is no digit. -/
theorem digitsValue?_minus (s : List Char) : digitsValue? 10 ('-' :: s) = none := by
  have hfold (f : Option Nat → Char → Option Nat) (hf : ∀ c, f none c = none) :
      s.foldl f none = none := by
    induction s with
    | nil => rfl
    | cons c s ih => rw [List.foldl_cons, hf, ih]
  refine hfold _ fun c => ?_
  cases hexDigitValue? c with
  | none => rfl
  | some d =>
    by_cases hd : d < 10 <;> simp

theorem digitsValue?_toDigits (n : Nat) : digitsValue? 10 (Nat.toDigits 10 n) = some n := by
  rw [digitsValue?_of_isDigit Nat.toDigits_ne_nil fun c => isDigit_of_mem_toDigits,
    Nat.ofDigitChars_toDigits (by decide) (by decide)]

/-- Digits alone have no prefix for another base. -/
theorem splitBase_of_isDigit {s : List Char} (h : ∀ c ∈ s, c.isDigit = true) :
    splitBase s = (10, s) := by
  unfold splitBase
  split
  case h_4 => rfl
  all_goals exact absurd (h _ (List.mem_cons_of_mem _ List.mem_cons_self)) (by decide)

/-! ### Integers -/

/-- The digits of a number begin with no sign. -/
theorem dropSign_toDigits (n : Nat) :
    dropSign (Nat.toDigits 10 n) = Nat.toDigits 10 n := by
  unfold dropSign
  split
  case h_3 => rfl
  all_goals next heq => exact absurd (isDigit_of_toDigits_eq heq) (by decide)

/-- There is no needless zero in the text of an integer, with a sign or without one. -/
theorem hasNeedlessZero_of_dropSign {s : List Char} {n : Nat}
    (h : dropSign s = Nat.toDigits 10 n) : hasNeedlessZero s = false := by
  unfold hasNeedlessZero
  split
  · next heq => exact absurd (eq_nil_of_toDigits_eq (h.symm.trans heq)) (List.cons_ne_nil _ _)
  · rfl

/-- The digits of a number are read as the number, if it has no more bits than are allowed. -/
theorem integerOf?_toDigits {n bits : Nat} (h : n < 2 ^ bits) :
    integerOf? bits (Nat.toDigits 10 n) = some (n : Int) := by
  have hplus : ∀ s, Nat.toDigits 10 n = '+' :: s → False := fun s heq =>
    absurd (isDigit_of_toDigits_eq heq) (by decide)
  have hnatural : naturalOf? (Nat.pow 2 bits) (Nat.toDigits 10 n) = some n := by
    rw [naturalOf?, hasNeedlessZero_of_dropSign (dropSign_toDigits n),
      splitBase_of_isDigit fun _ => isDigit_of_mem_toDigits]
    · simpa [digitsValue?_toDigits] using h
    · exact hplus
  rw [integerOf?, hnatural]

/-- A text with a minus is no natural number, and is read with its sign. -/
theorem integerOf?_minus {n bits : Nat} (h : n ≤ 2 ^ (bits - 1)) :
    integerOf? bits ('-' :: Nat.toDigits 10 n) = some (-(n : Int)) := by
  have hneedless : hasNeedlessZero ('-' :: Nat.toDigits 10 n) = false :=
    hasNeedlessZero_of_dropSign rfl
  have hnatural : naturalOf? (Nat.pow 2 bits) ('-' :: Nat.toDigits 10 n) = none := by
    rw [naturalOf?, hneedless]
    · simp [splitBase, digitsValue?_minus]
    · exact fun s heq => absurd (List.cons.inj heq).1 (by decide)
  have hnegative : negativeOf? (Nat.pow 2 (bits - 1)) ('-' :: Nat.toDigits 10 n) = some n := by
    simp only [negativeOf?, hneedless, splitBase_of_isDigit fun _ => isDigit_of_mem_toDigits]
    simpa [digitsValue?_toDigits] using h
  rw [integerOf?, hnatural, hnegative]
  rfl

/-- An integer is written by its digits, or by a minus and the digits of its absolute value. -/
theorem toList_toString_cases (i : Int) :
    (∃ n : Nat, i = n ∧ (toString i).toList = Nat.toDigits 10 n) ∨
      ∃ n : Nat, i = -n ∧ (toString i).toList = '-' :: Nat.toDigits 10 n := by
  cases i with
  | ofNat n => exact Or.inl ⟨n, rfl, Nat.toList_repr⟩
  | negSucc n =>
    refine Or.inr ⟨n + 1, rfl, ?_⟩
    rw [Int.toString_eq_repr, Int.repr, String.toList_append]
    simp

/-- **The text of an integer stands for it.** -/
theorem integerOf?_toString {i : Int} {bits : Nat} (hlower : -(2 ^ (bits - 1)) ≤ i)
    (hupper : i < 2 ^ bits) : integerOf? bits (toString i).toList = some i := by
  obtain ⟨n, rfl, htext⟩ | ⟨n, rfl, htext⟩ := toList_toString_cases i
  · rw [htext, integerOf?_toDigits (by exact_mod_cast hupper)]
  · rw [htext, integerOf?_minus]
    exact_mod_cast Int.neg_le_neg_iff.mp hlower

/-! ### As plain scalars -/

/-- There is no pair of two characters where the first one is missing. -/
theorem hasPair_of_forall {p q : Char → Bool} {s : List Char} (h : ∀ c ∈ s, p c = false) :
    hasPair p q s = false := by
  induction s with
  | nil => rfl
  | cons c s ih =>
    cases s with
    | nil => rfl
    | cons d s =>
      rw [hasPair, h c List.mem_cons_self, ih fun x hx => h x (List.mem_cons_of_mem c hx)]
      rfl

/-- There is no indicator inside a text without colons and hashes. -/
theorem hasIndicatorAfter_of_forall {s : List Char} (h : ∀ c ∈ s, c ≠ ':' ∧ c ≠ '#')
    (previous : Char) : hasIndicatorAfter previous s = false := by
  induction s generalizing previous with
  | nil => rfl
  | cons c s ih =>
    obtain ⟨hcolon, hcomment⟩ := h c List.mem_cons_self
    rw [hasIndicatorAfter, ih fun x hx => h x (List.mem_cons_of_mem c hx)]
    simp [hcolon, hcomment]

/-- A digit is one of ten characters. -/
theorem exists_digitChar_eq {c : Char} (h : c.isDigit = true) : ∃ d < 10, c = Nat.digitChar d := by
  obtain ⟨hlower, hupper⟩ : 48 ≤ c.toNat ∧ c.toNat ≤ 57 := Char.isDigit_iff_toNat.mp h
  refine ⟨c.toNat - 48, by omega, Char.toNat_inj.mp ?_⟩
  rw [Nat.toNat_digitChar_of_lt_ten (by omega)]
  omega

/-- The characters that the text of an integer is made of are no indicators inside a scalar. -/
theorem of_integerChar {c : Char} (h : c = '-' ∨ c.isDigit = true) :
    isPrintable c = true ∧ isBreak c = false ∧ isSpace c = false ∧ c ≠ ':' ∧ c ≠ '#' := by
  rcases h with rfl | h
  · decide
  · obtain ⟨d, hd, rfl⟩ := exists_digitChar_eq h
    revert d
    decide

/-- A minus before a digit does not begin an item of a sequence. -/
theorem startsIndicator_toString (i : Int) : startsIndicator (toString i).toList = false := by
  have hdigit : ∀ d < 10, Nat.digitChar d ∉ leadingIndicators ∧ Nat.digitChar d ≠ '-' ∧
    Nat.digitChar d ≠ '.' ∧ Nat.digitChar d ≠ '?' ∧ Nat.digitChar d ≠ ':' ∧
    endsWordOrNull [Nat.digitChar d] = false := by decide
  obtain ⟨n, -, htext⟩ | ⟨n, -, htext⟩ := toList_toString_cases i
  all_goals
    rw [htext]
    obtain ⟨c, s, hs⟩ := List.exists_cons_of_ne_nil (@Nat.toDigits_ne_nil n 10)
    obtain ⟨d, hd, rfl⟩ := exists_digitChar_eq (isDigit_of_toDigits_eq hs)
    obtain ⟨hleading, hminus, hdot, hquestion, hcolon, hends⟩ := hdigit d hd
    rw [hs]
  · simp [startsIndicator, List.isPrefixOf, hleading, hminus, hminus.symm, hdot.symm, hquestion,
      hcolon]
  · have hsign : '-' ∉ leadingIndicators := by decide
    have hnext : endsWordOrNull (Nat.digitChar d :: s) = false := hends
    simp [startsIndicator, List.isPrefixOf, hminus.symm, hsign, hnext]

/-- **The text of an integer can stand as it is**, without quotes. -/
theorem allowsPlain_toString (i : Int) : allowsPlain (toString i).toList = true := by
  have hchars : ∀ c ∈ (toString i).toList, c = '-' ∨ c.isDigit = true := by
    obtain ⟨n, -, htext⟩ | ⟨n, -, htext⟩ := toList_toString_cases i
    · exact htext ▸ fun c hc => Or.inr (isDigit_of_mem_toDigits hc)
    · exact htext ▸ List.forall_mem_cons.mpr
        ⟨Or.inl rfl, fun c hc => Or.inr (isDigit_of_mem_toDigits hc)⟩
  have hstart := startsIndicator_toString i
  -- From here on only two facts count: which characters the text has, and that it does not start
  -- like an indicator.
  generalize (toString i).toList = s at hchars hstart
  have hspace : ∀ c ∈ s, isSpace c = false := fun c hc => (of_integerChar (hchars c hc)).2.2.1
  have hspace' : ∀ c ∈ s, c ≠ ' ' := fun c hc => by simpa [isSpace] using hspace c hc
  refine allowsPlain_iff.mpr ⟨?_, fun c hc => (of_integerChar (hchars c hc)).2.1,
    fun c hc => hspace' c (List.mem_of_mem_head? hc),
    fun c hc => hspace' c (List.mem_of_getLast? hc), ?_⟩
  · rw [needsEscapes, hasPair_of_forall hspace, Bool.or_false]
    simpa using fun c hc => (of_integerChar (hchars c hc)).1
  · unfold hasIndicator
    rw [hstart, Bool.false_or]
    cases s with
    | nil => rfl
    | cons c s =>
      exact hasIndicatorAfter_of_forall (fun d hd =>
        (of_integerChar (hchars d (List.mem_cons_of_mem c hd))).2.2.2) c

end Yaml

end EntityScript
