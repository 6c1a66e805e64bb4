import EntityScript.Yaml.Scalar.Gap
import EntityScript.Yaml.Scalar.Written

/-!
# Cursors and gaps in written documents

How a cursor goes over what a document is written with: a known text (`Cursor.advance_of_rest_eq`),
and the separators between words, which are blanks within a line (`readGap_spaces`), or line ends
with the indentation after them (`readGap_breaks`).
-/

namespace EntityScript

namespace Yaml

/-- The text is at its end, or goes on with no separator. -/
def StartsWord (s : List Char) : Prop :=
  ∀ c ∈ s.head?, isSeparator c = false

theorem startsWord_nil : StartsWord [] :=
  fun _ hc => nomatch hc

theorem startsWord_cons {c : Char} {s : List Char} : StartsWord (c :: s) ↔ isSeparator c = false :=
  ⟨fun h => h c rfl, fun h _ hd => Option.some.inj hd ▸ h⟩

theorem isSeparator_of_isBreak {c : Char} (h : isBreak c = true) : isSeparator c = true :=
  Bool.or_eq_true_iff.mpr (Or.inr h)

theorem isGap_of_isSeparator_eq_false {c : Char} (h : isSeparator c = false) : isGap c = false :=
  (Bool.or_eq_false_iff.mp h).1

theorem isBreak_of_isSeparator_eq_false {c : Char} (h : isSeparator c = false) :
    isBreak c = false :=
  (Bool.or_eq_false_iff.mp h).2

/-- A text begins with a run of characters of a kind, and goes on with another one. It is used for
the blanks and for the line ends of a text. -/
theorem exists_span_eq (p : Char → Bool) (s : List Char) :
    ∃ w t, s = w ++ t ∧ (∀ c ∈ w, p c = true) ∧ ∀ c ∈ t.head?, p c = false := by
  refine ⟨s.takeWhile p, s.dropWhile p, List.takeWhile_append_dropWhile.symm,
    List.all_eq_true.mp List.all_takeWhile, fun c hc => ?_⟩
  have hhead := List.head?_dropWhile_not p s
  rwa [Option.mem_def.mp hc] at hhead

/-- A text goes on to a run of characters of a kind, over the run, and then with another one. Texts
are taken apart in this way, word by word. -/
theorem exists_run_eq (p : Char → Bool) (s : List Char) :
    ∃ w g u, s = w ++ (g ++ u) ∧ (∀ c ∈ w, p c = false) ∧ (∀ c ∈ g, p c = true) ∧
      (∀ c ∈ u.head?, p c = false) ∧ (g = [] → u = []) := by
  obtain ⟨w, t, hs, hw, ht⟩ := exists_span_eq (!p ·) s
  obtain ⟨g, u, rfl, hg, hu⟩ := exists_span_eq p t
  simp only [Bool.not_eq_true', Bool.not_eq_false'] at hw ht
  refine ⟨w, g, u, hs, hw, hg, hu, ?_⟩
  rintro rfl
  cases u with
  | nil => rfl
  | cons c u => exact absurd (ht c rfl) (Bool.eq_false_iff.mp (hu c rfl))

@[simp] theorem length_spaces (n : Nat) : (spaces n).length = n :=
  List.length_replicate

namespace Cursor

theorem advance_of_rest_eq {c : Cursor} {s t : List Char} (h : c.rest = s ++ t) :
    c.advance s.length = ⟨t, c.index + s.length, c.line, c.column + s.length⟩ := by
  rw [advance, h, List.drop_left]

theorem rest_advance {c : Cursor} {s t : List Char} (h : c.rest = s ++ t) :
    (c.advance s.length).rest = t := by
  rw [advance_of_rest_eq h]

theorem rest_advance_spaces {c : Cursor} {n : Nat} {t : List Char} (h : c.rest = spaces n ++ t) :
    (c.advance n).rest = t := by
  have hadvance := rest_advance h
  rwa [length_spaces] at hadvance

/-- The blanks before a word are those that a reader of blanks finds. Which of the blanks are read
differs between the readers. -/
theorem span_spaces {c : Cursor} {p : Char → Bool} {n : Nat} {t : List Char} (hp : p ' ' = true)
    (hgap : ∀ d, p d = true → isGap d = true) (h : c.rest = spaces n ++ t) (ht : StartsWord t) :
    c.span p = spaces n := by
  have hword : t.takeWhile p = [] := by
    cases t with
    | nil => rfl
    | cons d t =>
      refine List.takeWhile_cons_of_neg fun hd => Bool.eq_false_iff.mp ?_ (hgap d hd)
      exact isGap_of_isSeparator_eq_false (startsWord_cons.mp ht)
  have hspaces : ∀ d ∈ spaces n, p d = true := fun d hd => List.eq_of_mem_replicate hd ▸ hp
  rw [span, h, List.takeWhile_append_of_pos hspaces, hword, List.append_nil]

@[simp] theorem column_advance (c : Cursor) (n : Nat) : (c.advance n).column = c.column + n := rfl

@[simp] theorem index_advance (c : Cursor) (n : Nat) : (c.advance n).index = c.index + n := rfl

@[simp] theorem line_advance (c : Cursor) (n : Nat) : (c.advance n).line = c.line := rfl

@[simp] theorem column_nextLine (c : Cursor) : c.nextLine.column = 0 := rfl

theorem advance_advance (c : Cursor) (m n : Nat) : (c.advance m).advance n = c.advance (m + n) := by
  simp only [advance, List.drop_drop, Nat.add_assoc]

/-- A line end of one character is passed over as such. -/
theorem rest_nextLine {c : Cursor} {d : Char} {t : List Char} (h : c.rest = d :: t)
    (hd : d ≠ '\r') : c.nextLine.rest = t := by
  simp only [nextLine, h]
  split
  · next heq => exact absurd (List.cons.inj heq).1 hd
  · rfl

/-- Markers of documents stand at the start of a line, so there is none behind it. -/
theorem atDocumentMarker_of_column {c : Cursor} (h : 0 < c.column) :
    c.atDocumentMarker = false := by
  simp only [atDocumentMarker, atMarker, beq_false_of_ne (Nat.ne_of_gt h), Bool.false_and,
    Bool.or_false]

end Cursor

/-! ### Gaps -/

variable {margin : Nat}

/-- A gap ends where a word starts. -/
theorem readGapWithin_of_startsWord {fuel : Nat} {g : Gap} {c : Cursor}
    (h : StartsWord c.rest) : readGapWithin margin fuel g c = some (g, c) := by
  cases fuel with
  | zero => rfl
  | succ fuel =>
    rw [readGapWithin]
    cases hrest : c.rest with
    | nil => rfl
    | cons d t =>
      rw [hrest, startsWord_cons] at h
      simp only [isGap_of_isSeparator_eq_false h, isBreak_of_isSeparator_eq_false h,
        Bool.false_eq_true, if_false]

/-- Blanks within a line are kept, those at the start of a line are dropped. The induction is on how
many there are. -/
theorem readGapWithin_spaces (fuel n : Nat) (g : Gap) {c : Cursor} {t : List Char}
    (h : c.rest = spaces n ++ t) :
    readGapWithin margin (n + fuel) g c =
      readGapWithin margin fuel (if g.folds then g else { g with blanks := g.blanks ++ spaces n })
        (c.advance n) := by
  induction n generalizing g c with
  | zero => simp [spaces, Cursor.advance]
  | succ n ih =>
    have hspaces : spaces (n + 1) = ' ' :: spaces n := rfl
    rw [hspaces, List.cons_append] at h
    have hrest : (c.advance 1).rest = spaces n ++ t := by rw [Cursor.advance, h]; rfl
    have hgap : isGap ' ' = true := by decide
    rw [Nat.add_right_comm, readGapWithin, h]
    simp only [hgap, if_true]
    -- After a line break the spaces are indentation and are dropped, before one they are kept.
    cases hfolds : g.folds with
    | true =>
      have hstep := ih g hrest
      rw [hfolds] at hstep
      simp only [if_true] at hstep ⊢
      rw [if_neg (by simp), hstep, Cursor.advance_advance, Nat.add_comm 1 n]
    | false =>
      have hstep := ih { g with blanks := g.blanks ++ [' '] } hrest
      simp only [hfolds, Bool.false_eq_true, if_false] at hstep ⊢
      rw [hstep, Cursor.advance_advance, Nat.add_comm 1 n, hspaces, List.append_assoc]
      rfl

/-- Blanks between two words of a line are a gap of these blanks. They stand for themselves, as no
line ends between them. -/
theorem readGap_spaces {n : Nat} {c : Cursor} {t : List Char} (h : c.rest = spaces n ++ t)
    (ht : StartsWord t) : readGap margin {} c = some ({ blanks := spaces n }, c.advance n) := by
  have hlength : c.rest.length = n + t.length := by
    rw [h, List.length_append, length_spaces]
  rw [readGap, hlength, readGapWithin_spaces _ _ _ h]
  exact readGapWithin_of_startsWord ((Cursor.rest_advance_spaces h).symm ▸ ht)

/-- The line ends that can be written as they are. All others are written by escapes. -/
theorem eq_of_isBreak_of_isPrintable {b : Char} (hbreak : isBreak b = true)
    (hprintable : isPrintable b = true) : b = '\n' ∨ b.toNat = 0x2028 ∨ b.toNat = 0x2029 := by
  simp only [isBreak, Bool.or_eq_true, beq_iff_eq] at hbreak
  rcases hbreak with (((hn | rfl) | h85) | h2028) | h2029
  · exact Or.inl hn
  · exact absurd hprintable (by decide)
  · simp only [isPrintable, h85] at hprintable
    exact absurd hprintable (by decide)
  · exact Or.inr (Or.inl h2028)
  · exact Or.inr (Or.inr h2029)

/-- A line end that can be written as it is stands for itself. All others are read as a line
feed. -/
theorem breakText_of_isPrintable {c : Cursor} {b : Char} {t : List Char} (h : c.rest = b :: t)
    (hbreak : isBreak b = true) (hprintable : isPrintable b = true) : c.breakText = [b] := by
  rw [Cursor.breakText, h]
  rcases eq_of_isBreak_of_isPrintable hbreak hprintable with rfl | hb | hb
  · rfl
  · simp [hb]
  · simp [hb]

/-- A separator that can be written as it is ends a line or is a space. A tab is escaped, so it
never separates words here. -/
theorem eq_space_of_isPrintable {c : Char} (hseparator : isSeparator c = true)
    (hprintable : isPrintable c = true) (hbreak : isBreak c = false) : c = ' ' := by
  rw [isSeparator, hbreak, Bool.or_false, isGap, Bool.or_eq_true, beq_iff_eq, beq_iff_eq]
    at hseparator
  rcases hseparator with rfl | rfl
  · rfl
  · exact absurd hprintable (by decide)

theorem isPrintable_of_needsEscapes_eq_false {s : List Char} (h : needsEscapes s = false) :
    ∀ c ∈ s, isPrintable c = true := by
  simpa using (Bool.or_eq_false_iff.mp h).1

/-- A carriage return is never written as it is, so no line end has two characters. -/
theorem ne_carriageReturn_of_isPrintable {b : Char} (h : isPrintable b = true) : b ≠ '\r' := by
  rintro rfl
  exact absurd h (by decide)

/-- A line end begins a gap over line ends, or goes on with one. The first line end is kept apart,
as it may be read as a blank. -/
theorem readGapWithin_break (fuel : Nat) (g : Gap) {c : Cursor} {b : Char} {t : List Char}
    (h : c.rest = b :: t) (hbreak : isBreak b = true) (hprintable : isPrintable b = true) :
    readGapWithin margin (fuel + 1) g c =
      readGapWithin margin fuel (g.addBreak [b]) c.nextLine := by
  have hgap : isGap b = false := by
    rcases eq_of_isBreak_of_isPrintable hbreak hprintable with rfl | hb | hb
    · decide
    all_goals
      simp only [isGap, Bool.or_eq_false_iff, beq_eq_false_iff_ne]
      constructor <;> rintro rfl <;> exact absurd hb (by decide)
  rw [readGapWithin, breakText_of_isPrintable h hbreak hprintable, h]
  simp only [hgap, hbreak, Bool.false_eq_true, if_false, if_true]

/-- Line ends one after the other are added to the gap. -/
theorem exists_readGapWithin_breaks (fuel : Nat) (g : Gap) (hfolds : g.folds = true) {c : Cursor}
    {bs t : List Char} (h : c.rest = bs ++ t) (hcolumn : c.column = 0)
    (hbs : ∀ b ∈ bs, isBreak b = true ∧ isPrintable b = true) :
    ∃ c' : Cursor, c'.rest = t ∧ c'.column = 0 ∧
      readGapWithin margin (bs.length + fuel) g c =
        readGapWithin margin fuel { g with moreBreaks := g.moreBreaks ++ bs } c' := by
  induction bs generalizing g c with
  | nil => exact ⟨c, h, hcolumn, by rw [List.append_nil, List.length_nil, Nat.zero_add]⟩
  | cons b bs ih =>
    obtain ⟨⟨hbreak, hprintable⟩, hrest⟩ := List.forall_mem_cons.mp hbs
    have hfolds' : (g.addBreak [b]).folds = true := by
      rw [Gap.addBreak, if_pos hfolds]
      exact hfolds
    obtain ⟨c', ht, hcolumn', hstep⟩ := ih (g.addBreak [b]) hfolds'
      (Cursor.rest_nextLine h (ne_carriageReturn_of_isPrintable hprintable)) rfl hrest
    refine ⟨c', ht, hcolumn', ?_⟩
    rw [List.length_cons, Nat.add_right_comm, readGapWithin_break _ g h hbreak hprintable, hstep,
      Gap.addBreak, if_pos hfolds, List.append_assoc, List.singleton_append]

/-- **Line ends between two words**, with the indentation after them, are a gap of these line
ends. -/
theorem exists_readGap_breaks {n : Nat} {c : Cursor} {b : Char} {bs t : List Char}
    (h : c.rest = b :: bs ++ (spaces n ++ t)) (ht : StartsWord t)
    (hbs : ∀ d ∈ b :: bs, isBreak d = true ∧ isPrintable d = true) :
    ∃ c' : Cursor, c'.rest = t ∧ c'.column = n ∧
      readGap margin {} c = some ({ folds := true, firstBreak := [b], moreBreaks := bs }, c') := by
  obtain ⟨⟨hbreak, hprintable⟩, hmore⟩ := List.forall_mem_cons.mp hbs
  have hlength : c.rest.length = (bs.length + (n + t.length)) + 1 := by
    rw [h, List.cons_append, List.length_cons, List.length_append, List.length_append,
      length_spaces]
  obtain ⟨c₁, hrest, hcolumn, hbreaks⟩ := @exists_readGapWithin_breaks margin
    (n + t.length) (Gap.addBreak {} [b]) rfl _ _ _
    (Cursor.rest_nextLine h (ne_carriageReturn_of_isPrintable hprintable)) rfl hmore
  have hend : (c₁.advance n).rest = t := Cursor.rest_advance_spaces hrest
  refine ⟨c₁.advance n, hend, by rw [Cursor.column_advance, hcolumn, Nat.zero_add], ?_⟩
  rw [readGap, hlength, readGapWithin_break _ _ h hbreak hprintable, hbreaks,
    readGapWithin_spaces _ _ _ hrest]
  exact readGapWithin_of_startsWord (hend ▸ ht)

end Yaml

end EntityScript
