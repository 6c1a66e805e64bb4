import EntityScript.Text.Occurrence
import Mathlib.Data.List.Infix

/-!
# Replacing every occurrence

A text that is given in parts is divided at the occurrences of `p` (`Text.IsDivided`) when each of
its parts is `p`, or a text in which no occurrence of `p` begins, also none that goes on into the
parts after it. To replace `p` in such a text is to replace the parts that are `p`
(`Text.replace_flatten`). If two occurrences of `p` never overlap, the parts that are `p` are all
occurrences of `p` in the text (`Text.IsDivided.exists_of_flatten_eq`).
-/

namespace EntityScript

namespace Text

variable {p x rest : List Char}

/-! ### Where an occurrence begins -/

/-- An occurrence of `p` begins in `x`, where `rest` follows. -/
def BeginsIn (p x rest : List Char) : Prop :=
  ∃ y, y ≠ [] ∧ y <:+ x ∧ p <+: y ++ rest

theorem not_beginsIn_nil : ¬ BeginsIn p [] rest :=
  fun ⟨_, hne, hy, _⟩ => hne (List.suffix_nil.mp hy)

/-- What begins in a text begins at its first character or in the rest. The parts of a text are gone
through character by character. -/
theorem beginsIn_cons_iff {c : Char} :
    BeginsIn p (c :: x) rest ↔ p <+: c :: (x ++ rest) ∨ BeginsIn p x rest := by
  constructor
  · rintro ⟨y, hne, hy, hp⟩
    rcases List.suffix_cons_iff.mp hy with rfl | hy
    · exact Or.inl hp
    · exact Or.inr ⟨y, hne, hy, hp⟩
  · rintro (hp | ⟨y, hne, hy, hp⟩)
    · exact ⟨c :: x, List.cons_ne_nil c x, List.suffix_rfl, hp⟩
    · exact ⟨y, hne, List.suffix_cons_iff.mpr (Or.inr hy), hp⟩

/-- Nothing begins where its first character does not stand. A slug of the project begins with a
brace, so most parts are settled by this. -/
theorem not_beginsIn_of_not_mem {c : Char} (h : c ∉ x) : ¬ BeginsIn (c :: p) x rest := by
  induction x with
  | nil => exact not_beginsIn_nil
  | cons d x ih =>
    rw [List.mem_cons, not_or] at h
    rw [beginsIn_cons_iff, not_or]
    exact ⟨fun hp => h.1 (List.cons_prefix_cons.mp hp).1, ih h.2⟩

/-- An occurrence that does not begin in the first part of a text begins after it, and so it is one
of the second part. -/
theorem exists_of_append_eq {u v : List Char} (hx : ¬ BeginsIn p x rest)
    (h : x ++ rest = u ++ (p ++ v)) : ∃ u', u = x ++ u' ∧ rest = u' ++ (p ++ v) := by
  rcases List.append_eq_append_iff.mp h with ⟨u', rfl, hrest⟩ | ⟨y, rfl, hy⟩
  · exact ⟨u', rfl, hrest⟩
  · by_cases hne : y = []
    · subst hne
      exact ⟨[], by rw [List.append_nil, List.append_nil], hy.symm⟩
    · exact absurd ⟨y, hne, List.suffix_append u y, ⟨v, hy⟩⟩ hx

/-! ### Replacement at the front -/

/-- Characters of an occurrence that has been replaced are passed over. -/
theorem replaceAfter_append (p r x rest : List Char) :
    replaceAfter p r x.length (x ++ rest) = replaceAfter p r 0 rest := by
  induction x with
  | nil => rfl
  | cons c x ih => exact ih

/-- An occurrence at the front is replaced. What is inserted is not searched again. -/
theorem replace_append_self {r : List Char} (hp : p ≠ []) :
    replace p r (p ++ rest) = r ++ replace p r rest := by
  obtain ⟨c, p, rfl⟩ := List.exists_cons_of_ne_nil hp
  rw [replace, List.cons_append, replaceAfter, ← List.cons_append,
    if_pos (List.isPrefixOf_iff_prefix.mpr (List.prefix_append (c :: p) rest))]
  exact congrArg (r ++ ·) (replaceAfter_append (c :: p) r p rest)

/-- What stands before the first occurrence is copied. It is not enough that the text has no
occurrence in it: one may begin there and go on. -/
theorem replace_append_of_not_beginsIn {r : List Char} (h : ¬ BeginsIn p x rest) :
    replace p r (x ++ rest) = x ++ replace p r rest := by
  induction x with
  | nil => rfl
  | cons c x ih =>
    rw [beginsIn_cons_iff, not_or] at h
    rw [replace, List.cons_append, replaceAfter, if_neg (mt List.isPrefixOf_iff_prefix.mp h.1)]
    exact congrArg (c :: ·) (ih h.2)

/-- A text in which `p` does not occur stays as it is. There is then nothing to divide it at. -/
theorem replace_eq_self {s r : List Char} (h : ¬ p <:+: s) : replace p r s = s := by
  have hbegins : ¬ BeginsIn p s [] := by
    rintro ⟨y, -, hy, hp⟩
    rw [List.append_nil] at hp
    exact h (hp.isInfix.trans hy.isInfix)
  have hreplace := replace_append_of_not_beginsIn (r := r) hbegins
  rw [List.append_nil] at hreplace
  rw [hreplace]
  exact List.append_nil s

/-! ### Texts in parts -/

/-- Every part is `p`, or no occurrence of `p` begins in it. -/
def IsDivided (p : List Char) : List (List Char) → Prop
  | [] => True
  | x :: xs => (x = p ∨ ¬ BeginsIn p x xs.flatten) ∧ IsDivided p xs

/-- **Replacing in parts**: in a text that is divided at the occurrences of `p`, the parts that are
`p` are replaced, and nothing else is. -/
theorem replace_flatten {r : List Char} {xs : List (List Char)} (hp : p ≠ [])
    (h : IsDivided p xs) :
    replace p r xs.flatten = (xs.map fun x => if x = p then r else x).flatten := by
  induction xs with
  | nil => rfl
  | cons x xs ih =>
    rw [List.flatten_cons, List.map_cons, List.flatten_cons, ← ih h.2]
    by_cases hx : x = p
    · rw [if_pos hx, hx, replace_append_self hp]
    · rw [if_neg hx, replace_append_of_not_beginsIn (h.1.resolve_left hx)]

/-- **No occurrence is missed**: in a text that is divided at the occurrences of `c :: p`, each of
them is a part, if none can begin inside another one. -/
theorem IsDivided.exists_of_flatten_eq {c : Char} {u v : List Char} {xs : List (List Char)}
    (h : IsDivided (c :: p) xs) (hp : c ∉ p) (heq : xs.flatten = u ++ (c :: p ++ v)) :
    ∃ before after, xs = before ++ (c :: p) :: after ∧ before.flatten = u ∧
      after.flatten = v := by
  induction xs generalizing u with
  | nil => simp at heq
  | cons x xs ih =>
    rw [List.flatten_cons] at heq
    by_cases hx : x = c :: p
    · cases u with
      | nil =>
        rw [hx] at heq
        exact ⟨[], xs, by rw [hx]; rfl, rfl, List.append_cancel_left heq⟩
      | cons d u =>
        rw [hx, List.cons_append, List.cons_append] at heq
        obtain ⟨rfl, htail⟩ := List.cons.inj heq
        obtain ⟨u', rfl, hrest⟩ := exists_of_append_eq (not_beginsIn_of_not_mem hp) htail
        obtain ⟨before, after, rfl, rfl, rfl⟩ := ih h.2 hrest
        exact ⟨x :: before, after, rfl, by rw [List.flatten_cons, hx]; rfl, rfl⟩
    · obtain ⟨u', rfl, hrest⟩ := exists_of_append_eq (h.1.resolve_left hx) heq
      obtain ⟨before, after, rfl, rfl, rfl⟩ := ih h.2 hrest
      exact ⟨x :: before, after, rfl, rfl, rfl⟩

end Text

end EntityScript
