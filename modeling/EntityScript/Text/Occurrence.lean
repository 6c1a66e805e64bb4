/-!
# Occurrences in a text

Where one list of characters occurs in another: at the start, at the end, anywhere, and the
replacement of all occurrences. Replacement takes occurrences from left to right, never two that
overlap, and does not look at what it inserts.
-/

namespace EntityScript

namespace Text

/-- The text `s` contains `p`. -/
def contains (p : List Char) : List Char → Bool
  | [] => p.isEmpty
  | c :: s => p.isPrefixOf (c :: s) || contains p s

/-- The text with every occurrence of `p` replaced by `r`, where the first `skip` characters belong
to an occurrence that has already been replaced. -/
def replaceAfter (p r : List Char) : Nat → List Char → List Char
  | _, [] => []
  | skip + 1, _ :: s => replaceAfter p r skip s
  | 0, c :: s =>
    if p.isPrefixOf (c :: s) then r ++ replaceAfter p r (p.length - 1) s
    else c :: replaceAfter p r 0 s

/-- The text with every occurrence of the non-empty `p` replaced by `r`. -/
def replace (p r s : List Char) : List Char :=
  replaceAfter p r 0 s

/-- The number of bytes of a text in UTF-8. -/
def byteLength : List Char → Nat
  | [] => 0
  | c :: s => c.utf8Size + byteLength s

/-- A text contains another one if that stands somewhere in it. -/
theorem contains_iff {p s : List Char} : contains p s = true ↔ ∃ u v, s = u ++ p ++ v := by
  induction s with
  | nil =>
    simp only [contains, List.isEmpty_iff]
    refine ⟨fun h => ⟨[], [], by simp [h]⟩, fun ⟨u, v, h⟩ => ?_⟩
    simp only [List.append_assoc, List.nil_eq, List.append_eq_nil_iff] at h
    exact h.2.1
  | cons c s ih =>
    simp only [contains, Bool.or_eq_true, List.isPrefixOf_iff_prefix, ih]
    constructor
    · rintro (⟨v, h⟩ | ⟨u, v, rfl⟩)
      · exact ⟨[], v, by simp [h]⟩
      · exact ⟨c :: u, v, by simp⟩
    · rintro ⟨u, v, h⟩
      cases u with
      | nil => exact Or.inl ⟨v, by simpa using h.symm⟩
      | cons d u =>
        simp only [List.cons_append, List.cons.injEq] at h
        exact Or.inr ⟨u, v, h.2⟩

@[simp] theorem byteLength_nil : byteLength [] = 0 := rfl

@[simp] theorem byteLength_cons (c : Char) (s : List Char) :
    byteLength (c :: s) = c.utf8Size + byteLength s := rfl

@[simp] theorem byteLength_append (s t : List Char) :
    byteLength (s ++ t) = byteLength s + byteLength t := by
  induction s with
  | nil => simp
  | cons c s ih => simp [ih, Nat.add_assoc]

end Text

end EntityScript
