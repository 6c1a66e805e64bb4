import EntityScript.Text.Occurrence
import Mathlib.Data.String.Basic

/-!
# Slices

A part of a text is cut out at two byte offsets. There is such a part (`Text.slice?`) only if both
offsets lie between characters, and the first one does not lie behind the second one. The offsets
between characters are the lengths of the parts into which a text can be divided
(`Text.isValid_iff`), and what is cut out at such offsets is the part between them
(`Text.slice?_eq`).
-/

namespace EntityScript

namespace Text

/-- The part of a text from one byte offset to another, if both lie between characters. -/
def slice? (s : String) (start stop : Nat) : Option String :=
  if String.Pos.Raw.isValid s ⟨start⟩ && String.Pos.Raw.isValid s ⟨stop⟩ && start ≤ stop then
    some (String.Pos.Raw.extract s ⟨start⟩ ⟨stop⟩)
  else none

/-- The byte offset at which `p` occurs first in a text. -/
def find? (p : List Char) : List Char → Option Nat
  | [] => if p.isEmpty then some 0 else none
  | c :: s => if p.isPrefixOf (c :: s) then some 0 else (find? p s).map (c.utf8Size + ·)

theorem find?_of_prefix {p s : List Char} {c : Char} (h : p <+: c :: s) :
    find? p (c :: s) = some 0 := by
  rw [find?, if_pos (List.isPrefixOf_iff_prefix.mpr h)]

/-- What does not stand at the start is looked for behind the first character. -/
theorem find?_of_not_prefix {p s : List Char} {c : Char} (h : ¬ p <+: c :: s) :
    find? p (c :: s) = (find? p s).map (c.utf8Size + ·) := by
  rw [find?, if_neg (mt List.isPrefixOf_iff_prefix.mp h)]

/-- The length in bytes is that of the standard library, by lists of characters. -/
theorem utf8Len_eq (s : List Char) : String.utf8Len s = byteLength s := by
  induction s with
  | nil => rfl
  | cons c s ih => rw [String.utf8Len_cons, byteLength_cons, ih, Nat.add_comm]

theorem utf8ByteSize_eq (s : String) : s.utf8ByteSize = byteLength s.toList := by
  rw [← utf8Len_eq, ← String.utf8ByteSize_ofList, String.ofList_toList]

/-- **Offsets between characters** are the lengths of what can stand before them. The standard
library says this of strings, and here it is said of lists of characters. -/
theorem isValid_iff {s : String} {n : Nat} :
    String.Pos.Raw.IsValid s ⟨n⟩ ↔ ∃ u v, s.toList = u ++ v ∧ byteLength u = n := by
  rw [String.Pos.Raw.isValid_iff_exists_append]
  constructor
  · rintro ⟨s₁, s₂, rfl, h⟩
    refine ⟨s₁.toList, s₂.toList, String.toList_append, ?_⟩
    rw [← utf8ByteSize_eq]
    exact (congrArg String.Pos.Raw.byteIdx h).symm
  · rintro ⟨u, v, h, rfl⟩
    refine ⟨String.ofList u, String.ofList v, ?_, ?_⟩
    · rw [← String.ofList_append, ← h, String.ofList_toList]
    · refine String.Pos.Raw.ext ?_
      rw [String.byteIdx_rawEndPos, utf8ByteSize_eq, String.toList_ofList]

/-- **What is cut out** between two offsets is what stands there. Both offsets are lengths of what
stands before them, so the cut does not fail. -/
theorem slice?_eq {s : String} {u v w : List Char} (h : s.toList = u ++ (v ++ w)) :
    slice? s (byteLength u) (byteLength u + byteLength v) = some (String.ofList v) := by
  have hstart : String.Pos.Raw.IsValid s ⟨byteLength u⟩ := isValid_iff.mpr ⟨u, v ++ w, h, rfl⟩
  have hstop : String.Pos.Raw.IsValid s ⟨byteLength u + byteLength v⟩ :=
    isValid_iff.mpr ⟨u ++ v, w, by rw [h, List.append_assoc], byteLength_append u v⟩
  have hextract := String.extract_of_valid u v w
  rw [utf8Len_eq, utf8Len_eq, List.append_assoc, ← h, String.ofList_toList] at hextract
  rw [slice?, String.Pos.Raw.isValid_eq_true_iff.mpr hstart,
    String.Pos.Raw.isValid_eq_true_iff.mpr hstop, if_pos (by simp), hextract]

theorem slice?_utf8ByteSize_eq {s : String} {u v : List Char} (h : s.toList = u ++ v) :
    slice? s (byteLength u) s.utf8ByteSize = some (String.ofList v) := by
  rw [utf8ByteSize_eq, h, byteLength_append]
  exact slice?_eq (w := []) (by rw [List.append_nil, h])

end Text

end EntityScript
