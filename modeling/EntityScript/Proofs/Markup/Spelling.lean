import EntityScript.Markup.Reference

/-!
# Spellings of texts

In markup a character of a text stands for itself or is written as a reference, by one of the five
predefined names (`Refers.lt` and so on) or by its number in decimal or hexadecimal digits. A text
thus has many spellings (`Spells`); one of them writes a reference for every `&`, `<` and `>`
(`spells_escape`). Resolving the references gives back the text from all of them
(**`unescape_of_spells`**).
-/

namespace EntityScript

namespace Markup

/-! ### References -/

/-- The number that digits write, after those that write `n`. -/
def numberFrom? (base n : Nat) : List Char → Option Nat
  | [] => some n
  | c :: s => (digit? base c).bind fun d => numberFrom? base (n * base + d) s

/-- What stands between the ampersand and the semicolon of a reference to a character. -/
inductive Refers : List Char → Char → Prop
  | lt : Refers "lt".toList '<'
  | gt : Refers "gt".toList '>'
  | amp : Refers "amp".toList '&'
  | apos : Refers "apos".toList '\''
  | quot : Refers "quot".toList '"'
  | decimal {digits : List Char} {c : Char} (hdigits : digits ≠ []) (hc : c ≠ '\x00')
      (hnumber : numberFrom? 10 0 digits = some c.toNat) : Refers ('#' :: digits) c
  | hexadecimal {digits : List Char} {c : Char} (hdigits : digits ≠ []) (hc : c ≠ '\x00')
      (hnumber : numberFrom? 16 0 digits = some c.toNat) : Refers ('#' :: 'x' :: digits) c

/-- Digits are read as the number that they write, as long as it has at most 32 bits. A larger
number would be a fault. -/
theorem readDigits_of_numberFrom? {base n v : Nat} {s : List Char} (hbase : 0 < base)
    (hv : v < 0x100000000) (h : numberFrom? base n s = some v) :
    n ≤ v ∧ readDigits base n s = .ok v := by
  induction s generalizing n with
  | nil =>
    obtain rfl := Option.some.inj h
    exact ⟨Nat.le_refl n, rfl⟩
  | cons c s ih =>
    obtain ⟨d, hd, hrest⟩ := Option.bind_eq_some_iff.mp h
    obtain ⟨hle, hread⟩ := ih hrest
    -- Digits only make the number larger, so it never leaves the 32 bits on the way.
    have hn : n ≤ n * base := Nat.le_mul_of_pos_right n hbase
    refine ⟨by omega, ?_⟩
    rw [readDigits, hd]
    simp only [hread, if_pos (Nat.lt_of_le_of_lt hle hv)]

/-- These characters are no digits, and so are in no number. They are the signs, and the marks that
could end the number early. -/
theorem digit?_of_mark (base : Nat) : ∀ c ∈ "+-x&;<".toList, digit? base c = none := by
  simp [digit?]

/-- No mark stands in a number. -/
theorem not_mem_of_numberFrom? {base n v : Nat} {s : List Char} {c : Char}
    (hc : c ∈ "+-x&;<".toList) (h : numberFrom? base n s = some v) : c ∉ s := by
  induction s generalizing n with
  | nil => exact List.not_mem_nil
  | cons d s ih =>
    obtain ⟨m, hd, hrest⟩ := Option.bind_eq_some_iff.mp h
    refine List.not_mem_cons_of_ne_of_not_mem (fun heq => ?_) (ih hrest)
    rw [← heq, digit?_of_mark base c hc] at hd
    cases hd

/-- A number without a sign is read as what its digits write. A plus or a minus would not be read as
a digit. -/
theorem readNumber_of_numberFrom? {base v : Nat} {s : List Char} (hbase : 0 < base) (hs : s ≠ [])
    (hv : v < 0x100000000) (h : numberFrom? base 0 s = some v) : readNumber base s = .ok v := by
  unfold readNumber
  split
  · exact absurd rfl hs
  · exact absurd List.mem_cons_self (not_mem_of_numberFrom? (by decide) h)
  · exact absurd List.mem_cons_self (not_mem_of_numberFrom? (by decide) h)
  · exact (readDigits_of_numberFrom? hbase hv h).2

theorem charOf_toNat {c : Char} (hc : c ≠ '\x00') :
    (if c.toNat = 0 then .error .zero
      else if c.toNat.isValidChar then .ok (Char.ofNat c.toNat)
      else .error (.noCharacter c.toNat) : Except NumberFault Char) = .ok c := by
  have hzero : c.toNat ≠ 0 := fun h => hc (Char.toNat_inj.mp h)
  rw [if_neg hzero, if_pos (show c.toNat.isValidChar from c.valid), Char.ofNat_toNat]

/-- A reference is resolved to the character that it refers to, be it by name or by number. The five
names are tried first. -/
theorem resolveName_of_refers {name : List Char} {c : Char} (h : Refers name c) (start : Nat) :
    resolveName start name = .ok c := by
  have hlt : c.toNat < 0x100000000 := c.val.toNat_lt
  cases h with
  | lt | gt | amp | apos | quot => rfl
  | @decimal digits _ hdigits hc hnumber =>
    have hread : numberedChar digits = .ok c := by
      unfold numberedChar
      split
      · exact absurd List.mem_cons_self (not_mem_of_numberFrom? (by decide) hnumber)
      · rw [readNumber_of_numberFrom? (by decide) hdigits hlt hnumber]
        exact charOf_toNat hc
    simp only [resolveName, hread]
  | @hexadecimal digits _ hdigits hc hnumber =>
    have hread : numberedChar ('x' :: digits) = .ok c := by
      rw [numberedChar, readNumber_of_numberFrom? (by decide) hdigits hlt hnumber]
      exact charOf_toNat hc
    simp only [resolveName, hread]

/-- No character in a reference ends it, starts another one or starts markup. So the reader finds
its end where it was written. -/
theorem not_mem_of_refers {name : List Char} {c d : Char} (h : Refers name c)
    (hd : d ∈ "&;<".toList) : d ∉ name := by
  have hmark : d ∈ "+-x&;<".toList := List.mem_append_right "+-x".toList hd
  have hne : d ≠ '#' ∧ d ≠ 'x' := by
    constructor <;> rintro rfl <;> exact absurd hd (by decide)
  cases h with
  | lt | gt | amp | apos | quot =>
    have hcases : d = '&' ∨ d = ';' ∨ d = '<' := by simpa using hd
    rcases hcases with rfl | rfl | rfl <;> decide
  | decimal _ _ hnumber =>
    exact List.not_mem_cons_of_ne_of_not_mem hne.1 (not_mem_of_numberFrom? hmark hnumber)
  | hexadecimal _ _ hnumber =>
    exact List.not_mem_cons_of_ne_of_not_mem hne.1
      (List.not_mem_cons_of_ne_of_not_mem hne.2 (not_mem_of_numberFrom? hmark hnumber))

/-! ### Texts -/

/-- The first text is a way to write the second one. -/
inductive Spells : List Char → List Char → Prop
  | nil : Spells [] []
  | plain {c : Char} {raw s : List Char} (hlt : c ≠ '<') (hamp : c ≠ '&') (hrest : Spells raw s) :
      Spells (c :: raw) (c :: s)
  | reference {name : List Char} {c : Char} {raw s : List Char} (hname : Refers name c)
      (hrest : Spells raw s) : Spells ('&' :: name ++ ';' :: raw) (c :: s)

/-- The text with references for the characters that have a meaning in markup. -/
def escape : List Char → List Char
  | [] => []
  | '&' :: s => "&amp;".toList ++ escape s
  | '<' :: s => "&lt;".toList ++ escape s
  | '>' :: s => "&gt;".toList ++ escape s
  | c :: s => c :: escape s

/-- Writing references for the three characters is one way to spell a text. It shows that every text
has a spelling. -/
theorem spells_escape (s : List Char) : Spells (escape s) s := by
  fun_induction escape s with
  | case1 => exact .nil
  | case2 s ih => exact .reference .amp ih
  | case3 s ih => exact .reference .lt ih
  | case4 s ih => exact .reference .gt ih
  | case5 c s hamp hlt _ ih => exact .plain hlt hamp ih

/-- A spelling starts with the first character of the text or a reference to it. A character other
than `&` stands for itself. -/
theorem exists_eq_cons_of_spells_cons {c : Char} {raw s : List Char} (hc : c ≠ '&')
    (h : Spells (c :: raw) s) : ∃ rest, s = c :: rest := by
  cases h with
  | plain _ _ _ => exact ⟨_, rfl⟩
  | reference _ _ => exact absurd rfl hc

/-- No spelling has a `<`, which would be taken for markup. So the reader takes a spelling as one
text. -/
theorem lt_not_mem_of_spells {raw s : List Char} (h : Spells raw s) : '<' ∉ raw := by
  induction h with
  | nil => exact List.not_mem_nil
  | plain hlt _ _ ih => exact List.not_mem_cons_of_ne_of_not_mem hlt.symm ih
  | reference hname _ ih =>
    simp only [List.cons_append, List.mem_cons, List.mem_append, not_or]
    exact ⟨by decide, not_mem_of_refers hname (by decide), by decide, ih⟩

/-- A reference is resolved where it ends; `before` is what has been read of it. -/
theorem unescapeFrom_reference {total start offset : Nat} {c : Char}
    {before name raw s : List Char} (hamp : '&' ∉ name) (hend : ';' ∉ name)
    (hname : resolveName start (before.reverse ++ name) = .ok c)
    (hrest : ∀ offset, unescapeFrom total none offset raw = .ok s) :
    unescapeFrom total (some (start, before)) offset (name ++ ';' :: raw) = .ok (c :: s) := by
  induction name generalizing before offset with
  | nil =>
    rw [List.append_nil] at hname
    rw [List.nil_append, unescapeFrom]
    simp [hname, hrest, bind, Except.bind]
  | cons d name ih =>
    rw [List.mem_cons, not_or] at hamp hend
    rw [List.cons_append, unescapeFrom]
    simp only [Ne.symm hamp.1, Ne.symm hend.1, if_false]
    exact ih hamp.2 hend.2 (by rwa [List.reverse_cons, List.append_assoc])

/-- From every spelling the text is given back, wherever in a text it stands. Offsets serve for
messages about faults only, and there is none. -/
theorem unescapeFrom_of_spells {raw s : List Char} (h : Spells raw s) (total offset : Nat) :
    unescapeFrom total none offset raw = .ok s := by
  induction h generalizing offset with
  | nil => rfl
  | plain _ hamp _ ih =>
    rw [unescapeFrom]
    simp only [hamp, if_false, ih]
    rfl
  | reference hname _ ih =>
    rw [List.cons_append, unescapeFrom]
    exact unescapeFrom_reference (not_mem_of_refers hname (by decide))
      (not_mem_of_refers hname (by decide)) (resolveName_of_refers hname _) fun _ => ih _

/-- **References are resolved**: every spelling of a text gives it back, and no other text. -/
theorem unescape_of_spells {raw s : String} (h : Spells raw.toList s.toList) :
    unescape raw = .ok s := by
  rw [unescape, unescapeFrom_of_spells h]
  exact congrArg Except.ok String.ofList_toList

end Markup

end EntityScript
