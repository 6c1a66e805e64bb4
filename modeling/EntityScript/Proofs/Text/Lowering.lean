import EntityScript.Text.Case

/-!
# Lowering in context

The lower-case form of a text is put together from those of its characters, and only that of a
capital sigma depends on where it stands: it is final when a cased letter stands before it and none
after, ignorable marks passed over (`isFinalSigma`). `lowerBetween before s after` is the lower-case
form of a text `s` at its place between two others; a text in pieces is lowered piece by piece, each
at its place (`lowerBetween_append`, `lower_append_append`).

A piece is lowered at its place as it is by itself exactly when each of its capital sigmas is final
in both or in neither (`KeepsSigmas`, **`lowerBetween_eq_lower_iff`**). A piece with that property
next to a cased letter on either side has it anywhere (`keepsSigmas_of_edges`), and only such a
piece is found, once lowered, in every lowered text around it (**`forall_lower_isInfix_iff`**).
-/

namespace EntityScript

namespace Text

/-! ### The characters next to a place -/

/-- Ignorable marks are passed over to what follows them. What counts is the first character that is
not ignorable, wherever it stands. -/
theorem startsCased_append (s t : List Char) :
    startsCased (s ++ t) = if s.all isCaseIgnorable then startsCased t else startsCased s := by
  induction s with
  | nil => rfl
  | cons c s ih =>
    cases hc : isCaseIgnorable c <;> simp_all [startsCased]

/-- A text of ignorable marks does not start with a cased letter. -/
theorem startsCased_of_all {s : List Char} (h : s.all isCaseIgnorable = true) :
    startsCased s = false := by
  have happend := startsCased_append s []
  rw [h, if_pos rfl, List.append_nil] at happend
  exact happend

/-- A capital sigma between two texts is final. -/
def isFinalSigma (before after : List Char) : Bool :=
  startsCased before.reverse && !startsCased after

/-! ### Lowering at a place -/

/-- The lower-case form of a character between two texts. -/
def lowerCharBetween (before : List Char) (c : Char) (after : List Char) : List Char :=
  if c = 'Σ' then [if isFinalSigma before after then 'ς' else 'σ'] else lowerChar c

/-- The lower-case form of a text between two others. -/
def lowerBetween (before : List Char) : (s after : List Char) → List Char
  | [], _ => []
  | c :: s, after =>
    lowerCharBetween before c (s ++ after) ++ lowerBetween (before ++ [c]) s after

/-- Lowering from left to right keeps of what stands before only whether it ends in a cased
letter. -/
theorem lowerAfter_eq_lowerBetween (before s : List Char) :
    lowerAfter (startsCased before.reverse) s = lowerBetween before s [] := by
  induction s generalizing before with
  | nil => rfl
  | cons c s ih =>
    have hnext : (if isCaseIgnorable c then startsCased before.reverse else isCased c) =
        startsCased (before ++ [c]).reverse := by
      rw [List.reverse_concat]
      cases hc : isCaseIgnorable c <;> simp [startsCased, hc]
    rw [lowerAfter, lowerBetween, hnext, ih, List.append_nil]
    rfl

theorem lower_eq_lowerBetween (s : List Char) : lower s = lowerBetween [] s [] :=
  lowerAfter_eq_lowerBetween [] s

/-- Two pieces are lowered each at its place. Each piece has the other one among what stands around
it. -/
theorem lowerBetween_append (before s t after : List Char) :
    lowerBetween before (s ++ t) after =
      lowerBetween before s (t ++ after) ++ lowerBetween (before ++ s) t after := by
  induction s generalizing before with
  | nil => rw [List.append_nil]; rfl
  | cons c s ih =>
    simp only [List.cons_append, lowerBetween, ih, List.append_assoc, List.nil_append]

theorem lower_append_append (u p v : List Char) :
    lower (u ++ p ++ v) =
      lowerBetween [] u (p ++ v) ++ lowerBetween u p v ++ lowerBetween (u ++ p) v [] := by
  rw [lower_eq_lowerBetween, lowerBetween_append, lowerBetween_append, List.append_nil]
  rfl

/-! ### Keeping sigmas -/

/-- A character is lowered to as many characters at every place: the two forms of sigma are of one
length. -/
theorem length_lowerCharBetween (before before' after after' : List Char) (c : Char) :
    (lowerCharBetween before c after).length = (lowerCharBetween before' c after').length := by
  rw [lowerCharBetween, lowerCharBetween]
  split <;> rfl

/-- The place of a text does not change how long it is when lowered. Hence lowered texts of two
places can be compared from the left. -/
theorem length_lowerBetween (before before' s after after' : List Char) :
    (lowerBetween before s after).length = (lowerBetween before' s after').length := by
  induction s generalizing before before' with
  | nil => rfl
  | cons c s ih =>
    rw [lowerBetween, lowerBetween, List.length_append, List.length_append,
      length_lowerCharBetween before before' (s ++ after) (s ++ after'),
      ih (before ++ [c]) (before' ++ [c])]

/-- Two places lower a character alike unless it is a sigma that is final at one of them only. No
other character looks at its neighbours. -/
theorem lowerCharBetween_eq_iff {before before' after after' : List Char} {c : Char} :
    lowerCharBetween before c after = lowerCharBetween before' c after' ↔
      (c = 'Σ' → isFinalSigma before after = isFinalSigma before' after') := by
  rw [lowerCharBetween, lowerCharBetween]
  by_cases hc : c = 'Σ'
  · cases isFinalSigma before after <;> cases isFinalSigma before' after' <;> simp [hc]
  · simp [hc]

/-- Two places lower a text alike when the same of its capital sigmas are final there. The induction
is on the text, of which the first character moves to the side that stands before. -/
theorem lowerBetween_eq_iff {u u' p v v' : List Char} :
    lowerBetween u p v = lowerBetween u' p v' ↔ ∀ s t, p = s ++ 'Σ' :: t →
      isFinalSigma (u ++ s) (t ++ v) = isFinalSigma (u' ++ s) (t ++ v') := by
  induction p generalizing u u' with
  | nil => simp [lowerBetween]
  | cons c p ih =>
    -- The first character is a sigma at the split `[]`; the other splits are those of the rest,
    -- with the first character before it.
    rw [lowerBetween, lowerBetween]
    constructor
    · intro h s t hsplit
      obtain ⟨hc, hp⟩ := List.append_inj h (length_lowerCharBetween u u' (p ++ v) (p ++ v') c)
      cases s with
      | nil =>
        obtain ⟨rfl, rfl⟩ := List.cons.inj hsplit
        rw [List.append_nil, List.append_nil]
        exact lowerCharBetween_eq_iff.mp hc rfl
      | cons d s =>
        obtain ⟨rfl, rfl⟩ := List.cons.inj hsplit
        simpa only [List.append_assoc, List.singleton_append] using ih.mp hp s t rfl
    · intro h
      have hc : lowerCharBetween u c (p ++ v) = lowerCharBetween u' c (p ++ v') := by
        refine lowerCharBetween_eq_iff.mpr fun heq => ?_
        simpa only [List.append_nil] using h [] p (by rw [heq, List.nil_append])
      have hp : lowerBetween (u ++ [c]) p v = lowerBetween (u' ++ [c]) p v' := by
        refine ih.mpr fun s t hsplit => ?_
        simpa only [List.append_assoc, List.singleton_append] using
          h (c :: s) t (by rw [hsplit, List.cons_append])
      rw [hc, hp]

/-- Between `u` and `v`, each capital sigma of `p` is final exactly when it is so in `p` by
itself. -/
def KeepsSigmas (u p v : List Char) : Prop :=
  ∀ s t, p = s ++ 'Σ' :: t → isFinalSigma (u ++ s) (t ++ v) = isFinalSigma s t

/-- **A text is lowered at its place as it is by itself** exactly when its capital sigmas keep their
form. -/
theorem lowerBetween_eq_lower_iff {u p v : List Char} :
    lowerBetween u p v = lower p ↔ KeepsSigmas u p v := by
  rw [lower_eq_lowerBetween, lowerBetween_eq_iff]
  simp only [List.nil_append, List.append_nil, KeepsSigmas]

instance (u p v : List Char) : Decidable (KeepsSigmas u p v) :=
  decidable_of_iff _ lowerBetween_eq_lower_iff

example : KeepsSigmas ['Α'] "ΑΣΑ".toList ['Σ'] ∧ ¬ KeepsSigmas ['Α'] "Σ".toList [] := by
  decide +kernel

theorem keepsSigmas_of_not_mem {p : List Char} (h : 'Σ' ∉ p) (u v : List Char) :
    KeepsSigmas u p v := by
  intro s t hsplit
  exact absurd (hsplit ▸ List.mem_append_right s List.mem_cons_self) h

/-- **Edges suffice**: a text whose sigmas keep their form next to a cased letter, on either side,
has them keep it anywhere. -/
theorem keepsSigmas_of_edges {p : List Char} {x y : Char} (hx : startsCased [x] = true)
    (hy : startsCased [y] = true) (hbefore : KeepsSigmas [x] p []) (hafter : KeepsSigmas [] p [y])
    (u v : List Char) : KeepsSigmas u p v := by
  intro s t hsplit
  have hb := hbefore s t hsplit
  have ha := hafter s t hsplit
  -- What stands beyond `s` or `t` counts only if that side is nothing but ignorable marks. With
  -- such an `s` the sigma is not final, so by `hb` a cased letter follows it inside `t`; with such
  -- a `t` it is not final by `ha`.
  simp only [isFinalSigma, List.reverse_append, List.reverse_cons, List.reverse_nil,
    List.nil_append, List.append_nil, startsCased_append, hx, hy] at hb ha ⊢
  cases hs : s.reverse.all isCaseIgnorable with
  | true =>
    have hfirst : startsCased s.reverse = false := startsCased_of_all hs
    cases ht : t.all isCaseIgnorable with
    | true =>
      have hlast : startsCased t = false := startsCased_of_all ht
      simp [hs, hfirst, hlast] at hb
    | false => simp_all
  | false =>
    cases ht : t.all isCaseIgnorable with
    | true =>
      have hlast : startsCased t = false := startsCased_of_all ht
      simp_all
    | false => simp_all

/-! ### Parts of a lowered text -/

theorem lower_append_left (p v : List Char) :
    lower (p ++ v) = lowerBetween [] p v ++ lowerBetween p v [] := by
  rw [lower_eq_lowerBetween, lowerBetween_append, List.append_nil]
  rfl

theorem length_lower (u p v : List Char) : (lower p).length = (lowerBetween u p v).length := by
  rw [lower_eq_lowerBetween]
  exact length_lowerBetween [] u p [] v

/-- The lowered start of a text is the start of the lowered text exactly when its sigmas keep their
form. -/
theorem lower_isPrefix_iff {p v : List Char} : lower p <+: lower (p ++ v) ↔ KeepsSigmas [] p v := by
  rw [lower_append_left, ← lowerBetween_eq_lower_iff]
  constructor
  · rintro ⟨rest, h⟩
    exact (List.append_inj h (length_lower [] p v)).1.symm
  · intro h
    exact ⟨lowerBetween p v [], by rw [h]⟩

/-- The lowered end of a text is the end of the lowered text exactly when its sigmas keep their
form. -/
theorem lower_isSuffix_iff {u p : List Char} : lower p <:+ lower (u ++ p) ↔ KeepsSigmas u p [] := by
  rw [lower_append_left, ← lowerBetween_eq_lower_iff]
  constructor
  · rintro ⟨rest, h⟩
    exact (List.append_inj' h (length_lower u p [])).2.symm
  · intro h
    exact ⟨lowerBetween [] u p, by rw [h]⟩

/-- A lowered part is found in the lowered text if its sigmas keep their form. The converse fails,
as it may be found at another place. -/
theorem lower_isInfix {u p v : List Char} (h : KeepsSigmas u p v) :
    lower p <:+: lower (u ++ p ++ v) := by
  rw [lower_append_append, lowerBetween_eq_lower_iff.mpr h]
  exact List.infix_append _ _ _

/-- One character more leaves no other place for a text that does not start with it. The letters
before and after a part are chosen in this way below. -/
theorem eq_of_isInfix_cons {l k : List Char} {x : Char} (h : l <:+: x :: k)
    (hlength : l.length = k.length) (hx : l.head? ≠ some x) : l = k := by
  obtain ⟨s, t, hsplit⟩ := h
  cases s with
  | nil =>
    -- `l` starts where the longer text does, at `x`.
    cases l with
    | nil => exact (List.length_eq_zero_iff.mp hlength.symm).symm
    | cons y l => exact absurd (congrArg some (List.cons.inj hsplit).1) hx
  | cons y s =>
    have hrest : s ++ l ++ t = k := (List.cons.inj hsplit).2
    have hempty : s.length + t.length = 0 := by
      have := congrArg List.length hrest
      simp only [List.length_append] at this
      omega
    obtain ⟨hs, ht⟩ : s = [] ∧ t = [] := by
      constructor <;> apply List.length_eq_zero_iff.mp <;> omega
    rw [← hrest, hs, ht, List.nil_append, List.append_nil]

/-- The same for one character more at the end. -/
theorem eq_of_isInfix_concat {l k : List Char} {x : Char} (h : l <:+: k ++ [x])
    (hlength : l.length = k.length) (hx : l.getLast? ≠ some x) : l = k := by
  have hreverse : l.reverse <:+: x :: k.reverse := by
    rw [← List.reverse_concat]
    exact List.reverse_infix.mpr h
  refine List.reverse_inj.mp (eq_of_isInfix_cons hreverse ?_ ?_)
  · rw [List.length_reverse, List.length_reverse, hlength]
  · rwa [List.head?_reverse]

/-- Some cased letter, its own lower-case form, is not the one given. Two letters are enough for
that. -/
theorem exists_letter_ne (c : Option Char) :
    ∃ x, startsCased [x] = true ∧ x ≠ 'Σ' ∧ lowerChar x = [x] ∧ c ≠ some x := by
  by_cases hc : c = some 'a'
  · exact ⟨'b', by decide +kernel, by decide, by decide +kernel, by simp [hc]⟩
  · exact ⟨'a', by decide +kernel, by decide, by decide +kernel, hc⟩

/-- **Everywhere a part.** A lowered text is a part of every lowered text around it only when its
sigmas keep their form at every place. -/
theorem forall_lower_isInfix_iff {p : List Char} :
    (∀ u v, lower p <:+: lower (u ++ p ++ v)) ↔ ∀ u v, KeepsSigmas u p v := by
  refine ⟨fun h => ?_, fun h u v => lower_isInfix (h u v)⟩
  have hletter {x : Char} (hx : x ≠ 'Σ') (hlower : lowerChar x = [x]) (before after : List Char) :
      lowerBetween before [x] after = [x] := by
    rw [lowerBetween, lowerCharBetween, if_neg hx, hlower]
    rfl
  -- A letter that `lower p` does not start with, and one that it does not end with.
  obtain ⟨x, hcased, hx, hlower, hne⟩ := exists_letter_ne (lower p).head?
  obtain ⟨y, hcased', hy, hlower', hne'⟩ := exists_letter_ne (lower p).getLast?
  -- Next to such a letter there is only one place left, that of the part itself.
  have hbefore : KeepsSigmas [x] p [] := by
    have hpart := h [x] []
    rw [List.append_nil, lower_append_left, hletter hx hlower] at hpart
    exact lowerBetween_eq_lower_iff.mp
      (eq_of_isInfix_cons hpart (length_lower [x] p []) hne).symm
  have hafter : KeepsSigmas [] p [y] := by
    have hpart := h [] [y]
    rw [List.nil_append, lower_append_left, hletter hy hlower'] at hpart
    exact lowerBetween_eq_lower_iff.mp
      (eq_of_isInfix_concat hpart (length_lower [] p [y]) hne').symm
  exact keepsSigmas_of_edges hcased hcased' hbefore hafter

end Text

end EntityScript
