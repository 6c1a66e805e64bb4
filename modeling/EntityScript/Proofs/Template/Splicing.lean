import EntityScript.Proofs.Template.Scanning

/-!
# Splicing texts into a text

Some of the slugs of a text are replaced, each at its own place, and all else is copied
(`Splices`). Where a slug stands is told by its byte offset, so it does not matter that the same
slug may be written at several places, nor what the texts look like that are put in. There is one
text that splicing gives and no other (`Splices.unique`).

The passages of a text are all of it (`flatMap_toList_passages`), hence a text that is put together
from its passages, some of them exchanged, is a text spliced into it.
-/

namespace EntityScript

/-! ### Places in a text -/

namespace Text

/-- Only the empty text has no bytes, as every character takes at least one. -/
theorem byteLength_eq_zero_iff {s : List Char} : byteLength s = 0 ↔ s = [] := by
  cases s with
  | nil => exact iff_of_true rfl rfl
  | cons c s =>
    have := c.utf8Size_pos
    simp only [byteLength_cons, reduceCtorEq, iff_false]
    omega

/-- A byte offset divides a text in one way. This is what makes offsets good for telling places. -/
theorem append_inj_of_byteLength_eq {u v u' v' : List Char} (h : u ++ v = u' ++ v')
    (hlength : byteLength u = byteLength u') : u = u' ∧ v = v' := by
  induction u generalizing u' with
  | nil =>
    obtain rfl := byteLength_eq_zero_iff.mp hlength.symm
    exact ⟨rfl, h⟩
  | cons c u ih =>
    cases u' with
    | nil => exact absurd (byteLength_eq_zero_iff.mp hlength) (List.cons_ne_nil c u)
    | cons c' u' =>
      obtain ⟨rfl, htail⟩ := List.cons.inj h
      obtain ⟨rfl, rfl⟩ := ih htail (Nat.add_left_cancel hlength)
      exact ⟨rfl, rfl⟩

end Text

namespace Template

/-! ### The passages of a text -/

/-- The passages of a text are all of it, from left to right. The induction is that of the search
for passages. -/
theorem flatMap_toList_passages (s : List Char) : (passages s).flatMap Passage.toList = s := by
  fun_induction passages s with
  | case1 => rfl
  | case2 c rest _ ih => rw [List.flatMap_cons, ih]; rfl
  | case3 c rest body hopener w after hread ih =>
    rw [List.flatMap_cons, ih, dropPrefix?_eq_some_iff.mp hopener,
      (Spelling.parse?_eq_some_iff.mp hread).2]
    rfl
  | case4 c rest body hopener _ ih =>
    rw [List.flatMap_append, ih, dropPrefix?_eq_some_iff.mp hopener]
    rfl

/-! ### Splicing -/

/-- `Splices n s edits result`: in the text `s`, which begins at the byte offset `n`, the slugs of
the edits stand at their places, one after the other, and `result` is the text with each of them
replaced by the text of its edit. -/
inductive Splices : Nat → List Char → List (Slug × String) → List Char → Prop
  /-- What follows the last slug is copied. -/
  | nil {n : Nat} {s : List Char} : Splices n s [] s
  /-- What stands before a slug is copied, and the slug is replaced. -/
  | cons {n : Nat} {s gap rest result : List Char} {g : Slug} {text : String}
      {edits : List (Slug × String)} (splits : s = gap ++ (g.spelling.toList ++ rest))
      (place : n + Text.byteLength gap = g.start) (tail : Splices g.stop rest edits result) :
      Splices n s ((g, text) :: edits) (gap ++ (text.toList ++ result))

namespace Splices

variable {n : Nat} {s result result' : List Char} {edits : List (Slug × String)}

/-- A text in front is copied. Offsets count from the start of the whole, so those of the slugs stay
as they are. -/
theorem append_left (u : List Char) (h : Splices (n + Text.byteLength u) s edits result) :
    Splices n (u ++ s) edits (u ++ result) := by
  cases h with
  | nil => exact .nil
  | @cons _ _ gap rest result g text edits splits place tail =>
    rw [← List.append_assoc u gap]
    refine .cons (by rw [splits, List.append_assoc]) ?_ tail
    rw [Text.byteLength_append, ← Nat.add_assoc]
    exact place

theorem slug {w : Spelling} {text : String}
    (h : Splices (n + Text.byteLength w.toList) s edits result) :
    Splices n (w.toList ++ s) ((⟨w, n⟩, text) :: edits) (text.toList ++ result) :=
  @cons n _ [] s result ⟨w, n⟩ text edits rfl rfl h

/-- **Splicing gives one text**: the places of the slugs settle what is copied. The induction is on
the first splicing; the second one is taken apart by the same offsets. -/
theorem unique (h : Splices n s edits result) (h' : Splices n s edits result') :
    result = result' := by
  induction h generalizing result' with
  | nil => cases h'; rfl
  | cons splits place _ ih =>
    cases h' with
    | cons splits' place' tail' =>
      have hlength := Nat.add_left_cancel (place.trans place'.symm)
      obtain ⟨rfl, hrest⟩ := Text.append_inj_of_byteLength_eq (splits.symm.trans splits') hlength
      obtain rfl := List.append_cancel_left hrest
      rw [ih tail']

end Splices

end Template

end EntityScript
