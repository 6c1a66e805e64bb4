/-!
# Decimal digits

What the formats that write numbers have in common: the decimal digits of a natural number are
digits, and none of them is a needless zero in front of the others.
-/

namespace EntityScript

namespace Text

theorem isDigit_of_mem_toDigits {n : Nat} {c : Char} (hc : c ∈ Nat.toDigits 10 n) :
    c.isDigit = true :=
  Nat.isDigit_of_mem_toDigits (by decide) (by decide) hc

theorem isDigit_of_toDigits_eq {n : Nat} {c : Char} {s : List Char}
    (h : Nat.toDigits 10 n = c :: s) : c.isDigit = true :=
  isDigit_of_mem_toDigits (h ▸ List.mem_cons_self)

/-- Only zero begins with a zero. The induction is on the number, by its last digit. -/
theorem eq_nil_of_toDigits_eq {n : Nat} {s : List Char} (h : Nat.toDigits 10 n = '0' :: s) :
    s = [] := by
  induction n using Nat.strongRecOn generalizing s with
  | ind n ih =>
    by_cases hn : n < 10
    · rw [Nat.toDigits_of_lt_base hn] at h
      exact (List.cons.inj h).2.symm
    · rw [Nat.toDigits_of_base_le (by decide) (Nat.le_of_not_lt hn)] at h
      obtain ⟨c, t, ht⟩ := List.exists_cons_of_ne_nil (@Nat.toDigits_ne_nil (n / 10) 10)
      rw [ht] at h
      obtain ⟨rfl, -⟩ := List.cons.inj h
      obtain rfl := ih (n / 10) (by omega) ht
      -- The quotient would be written `0` and be zero, but from ten on it is positive.
      have hzero : Nat.ofDigitChars 10 (Nat.toDigits 10 (n / 10)) 0 = n / 10 :=
        Nat.ofDigitChars_toDigits (by decide) (by decide)
      rw [ht] at hzero
      have hquotient : 0 = n / 10 := hzero
      omega

end Text

end EntityScript
