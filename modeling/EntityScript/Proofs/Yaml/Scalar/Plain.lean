import EntityScript.Proofs.Yaml.Gaps
import EntityScript.Yaml.Layout

/-!
# Plain scalars are read back

A text that may be written as a plain scalar consists of words with blanks between them. Neither a
word nor what stands between two of them looks like the end of a scalar (`IsPlain`), so such a text
is read to its end, be that the colon of a key (`readPlain_key`) or the end of a line
(`exists_readPlain_line`).
-/

namespace EntityScript

namespace Yaml

/-! ### Texts without an end in them -/

/-- The words of a plain scalar, from one of them on. -/
structure IsPlain (s : List Char) : Prop where
  ne_nil : s ≠ []
  /-- There are only blanks between words. -/
  eq_space : ∀ c ∈ s, isSeparator c = true → c = ' '
  head : ∀ c ∈ s.head?, c ≠ ' ' ∧ c ≠ '#'
  last : ∀ c ∈ s.getLast?, c ≠ ' '
  /-- There is no colon at the end of a word. -/
  colon : ∀ a b, s = a ++ ':' :: b → endsWord b = false
  /-- There is no word that begins a comment. -/
  comment : ∀ a b, s ≠ a ++ ' ' :: '#' :: b

/-- What follows the blanks behind a word are words again. So words can be read one by one. -/
theorem IsPlain.of_append {w s : List Char} {n : Nat} (h : IsPlain (w ++ (spaces (n + 1) ++ s)))
    (hs : StartsWord s) : IsPlain s := by
  have hspaces : spaces (n + 1) = spaces n ++ [' '] := List.replicate_succ'
  have hne : s ≠ [] := by
    rintro rfl
    refine h.last ' ' ?_ rfl
    rw [List.append_nil, hspaces, ← List.append_assoc, List.getLast?_concat]
    rfl
  have hsplit {t : List Char} (ht : s = t) :
      w ++ (spaces (n + 1) ++ s) = w ++ spaces n ++ ' ' :: t := by
    rw [ht, hspaces, List.append_assoc, List.append_assoc]
    rfl
  refine ⟨hne, fun c hc => h.eq_space c ?_, fun c hc => ⟨?_, ?_⟩, fun c hc => h.last c ?_,
    fun a b hab => h.colon (w ++ spaces n ++ ' ' :: a) b ?_, fun a b hab => ?_⟩
  · exact List.mem_append_right _ (List.mem_append_right _ hc)
  · rintro rfl
    exact absurd (hs ' ' hc) (by decide)
  · rintro rfl
    obtain ⟨b, rfl⟩ := List.head?_eq_some_iff.mp hc
    exact h.comment (w ++ spaces n) b (hsplit rfl)
  · rw [List.getLast?_append, List.getLast?_append, Option.mem_def.mp hc]
    rfl
  · rw [hsplit hab, List.append_assoc _ (' ' :: a)]
    rfl
  · refine h.comment (w ++ spaces n ++ ' ' :: a) b ?_
    rw [hsplit hab, List.append_assoc _ (' ' :: a)]
    rfl

theorem IsPlain.startsWord {s : List Char} (h : IsPlain s) (t : List Char) :
    StartsWord (s ++ t) := by
  obtain ⟨c, s, rfl⟩ := List.exists_cons_of_ne_nil h.ne_nil
  refine startsWord_cons.mpr (Bool.eq_false_iff.mpr fun hc => ?_)
  exact (h.head c rfl).1 (h.eq_space c List.mem_cons_self hc)

/-- A word stands before blanks and further words, or it is the last one. -/
theorem IsPlain.exists_eq {s : List Char} (h : IsPlain s) :
    ∃ w n s', s = w ++ (spaces n ++ s') ∧ w ≠ [] ∧ (∀ c ∈ w, isSeparator c = false) ∧
      (n = 0 ∧ s' = [] ∨ 0 < n ∧ IsPlain s') := by
  obtain ⟨w, g, u, rfl, hw, hg, hu, hend⟩ := exists_run_eq isSeparator s
  have hspaces : g = spaces g.length := List.eq_replicate_of_mem fun c hc =>
    h.eq_space c (List.mem_append_right _ (List.mem_append_left _ hc)) (hg c hc)
  refine ⟨w, g.length, u, by rw [← hspaces], ?_, hw, ?_⟩
  · rintro rfl
    cases g with
    | nil => exact h.ne_nil (hend rfl)
    | cons c g => exact (h.head c rfl).1 (h.eq_space c List.mem_cons_self (hg c List.mem_cons_self))
  · cases g with
    | nil => exact Or.inl ⟨rfl, hend rfl⟩
    | cons c g =>
      rw [hspaces] at h
      exact Or.inr ⟨Nat.succ_pos _, h.of_append hu⟩

/-! ### Words -/

/-- A scalar ends here: the text goes on with a separator, or with the colon of a value. -/
def EndsPlain : List Char → Prop
  | [] => True
  | c :: s => isSeparator c = true ∨ c = ':' ∧ endsWord s = true

/-- A word is read up to where the scalar may end. -/
theorem plainWord_append {w t : List Char} (hw : ∀ c ∈ w, isSeparator c = false)
    (hcolon : ∀ a b, w = a ++ ':' :: b → endsWord (b ++ t) = false) (ht : EndsPlain t) :
    plainWord false (w ++ t) = some w := by
  induction w with
  | nil =>
    cases t with
    | nil => rfl
    | cons d t =>
      rcases ht with hd | ⟨rfl, hd⟩
      · simp [plainWord, hd]
      · simp [plainWord, hd]
  | cons c w ih =>
    obtain ⟨hc, hrest⟩ := List.forall_mem_cons.mp hw
    have hword := ih hrest fun a b hab => hcolon (c :: a) b (congrArg (c :: ·) hab)
    -- A colon inside a word is part of it, since what follows it does not end a word.
    have hend : (c == ':' && endsWord (w ++ t)) = false := by
      by_cases h : c = ':'
      · rw [hcolon [] w (congrArg (· :: w) h), Bool.and_false]
      · rw [beq_false_of_ne h, Bool.false_and]
    rw [List.cons_append, plainWord, hc, hend, hword]
    rfl

/-- What does not end a word does not end it in front of more text. -/
theorem endsWord_append {s t : List Char} (h : endsWord s = false) : endsWord (s ++ t) = false := by
  cases s with
  | nil => cases h
  | cons c s => exact h

/-- What does not end a word is no gap. -/
theorem isGap_of_endsWord_eq_false {s : List Char} (h : endsWord s = false) :
    (!s.head?.any isGap) = true := by
  cases s with
  | nil => cases h
  | cons c s => simp [isGap_of_isSeparator_eq_false h]

/-- The first word of several, or the last one, is read as such. -/
theorem IsPlain.plainWord_eq {w s t : List Char} {n : Nat} (h : IsPlain (w ++ (spaces n ++ s)))
    (hw : ∀ c ∈ w, isSeparator c = false) (hs : n = 0 → s = []) (ht : EndsPlain t) :
    plainWord false (w ++ (spaces n ++ (s ++ t))) = some w := by
  refine plainWord_append hw (fun a b hab => ?_) ?_
  · have hb := h.colon a (b ++ (spaces n ++ s)) (by rw [hab, List.append_assoc]; rfl)
    have happend := endsWord_append (t := t) hb
    rwa [List.append_assoc, List.append_assoc] at happend
  · cases n with
    | zero => rwa [hs rfl]
    | succ n => exact Or.inl rfl

/-! ### Scalars -/

/-- A scalar ends at the place: no separator stands there, or the text goes on left of the margin
after the separators. With the place after them, and whether they go over the end of a line. -/
inductive EndsScalar (margin : Nat) (c : Cursor) : Bool → Cursor → Prop where
  | colon (hgap : c.atGap = false) (hbreak : c.atBreak = false) : EndsScalar margin c false c
  | line {g : Gap} {c' : Cursor} (hbreak : c.atBreak = true)
    (hread : readGap margin {} c = some (g, c'))
    (hcolumn : c'.column < margin) : EndsScalar margin c g.folds c'

/-- A word with no blank behind it is read to the end of the scalar, which may be in a later
line. -/
theorem readPlainWithin_last {margin fuel : Nat} {text w : List Char} {g : Gap} {c c' : Cursor}
    {b : Bool} (hmarker : c.atDocumentMarker = false) (hcomment : startsWith '#' c.rest = false)
    (hword : plainWord false c.rest = some w) (hne : w ≠ [])
    (hend : EndsScalar margin (c.advance w.length) b c') :
    readPlainWithin false margin (fuel + 1) text g c = some ⟨text ++ g.text ++ w, c', b⟩ := by
  rw [readPlainWithin, hmarker, hcomment, hword]
  cases hend with
  | colon hgap hbreak => simp [hne, hgap, hbreak]
  | line hbreak hread hcolumn => simp [hne, hbreak, hread, hcolumn]

/-- A word with blanks behind it is read on from the next word. -/
theorem readPlainWithin_next {margin fuel n : Nat} {text w s : List Char} {g : Gap} {c : Cursor}
    (hmarker : c.atDocumentMarker = false) (hcomment : startsWith '#' c.rest = false)
    (hword : plainWord false c.rest = some w) (hne : w ≠ [])
    (hrest : c.rest = w ++ (spaces n ++ s)) (hpos : 0 < n) (hs : StartsWord s)
    (hcolumn : margin ≤ c.column + 1) :
    readPlainWithin false margin (fuel + 1) text g c =
      readPlainWithin false margin fuel (text ++ g.text ++ w) { blanks := spaces n }
        (c.advance (w.length + n)) := by
  have hwidth : 0 < w.length := List.length_pos_iff.mpr hne
  have hrest' : (c.advance w.length).rest = spaces n ++ s := Cursor.rest_advance hrest
  have hgap : (c.advance w.length).atGap = true := by
    obtain ⟨n, rfl⟩ := Nat.exists_eq_succ_of_ne_zero (Nat.ne_of_gt hpos)
    rw [Cursor.atGap, hrest']
    rfl
  have hmargin : ¬ c.column + (w.length + n) < margin := by omega
  rw [readPlainWithin, hmarker, hcomment, hword]
  simp [hne, hgap, readGap_spaces hrest' hs, Cursor.advance_advance, hmargin]

/-- The words of a scalar are read to their end, wherever the reader begins with them. The induction
is on the fuel, of which every word takes one. -/
theorem readPlainWithin_eq {margin fuel : Nat} {text s t : List Char} {g : Gap} {c c' : Cursor}
    {b : Bool} (h : IsPlain s) (hrest : c.rest = s ++ t) (hmarker : c.atDocumentMarker = false)
    (hcolumn : margin ≤ c.column + 1) (ht : EndsPlain t) (hfuel : s.length ≤ fuel)
    (hend : EndsScalar margin (c.advance s.length) b c') :
    readPlainWithin false margin fuel text g c = some ⟨text ++ g.text ++ s, c', b⟩ := by
  induction fuel generalizing text s g c with
  | zero => exact absurd (List.length_eq_zero_iff.mp (Nat.le_zero.mp hfuel)) h.ne_nil
  | succ fuel ih =>
    -- The first word is the last one, or has blanks and further words behind it.
    obtain ⟨w, n, s', rfl, hne, hw, hrun⟩ := h.exists_eq
    rw [List.append_assoc, List.append_assoc] at hrest
    have hcomment : startsWith '#' c.rest = false := by
      obtain ⟨d, w', rfl⟩ := List.exists_cons_of_ne_nil hne
      rw [hrest]
      simpa [startsWith] using (h.head d rfl).2
    have hword : plainWord false c.rest = some w := by
      rw [hrest]
      refine h.plainWord_eq hw (fun hn => ?_) ht
      rcases hrun with ⟨-, hs'⟩ | ⟨hpos, -⟩
      · exact hs'
      · omega
    rcases hrun with ⟨rfl, rfl⟩ | ⟨hpos, hs'⟩
    · have hlast : w ++ (spaces 0 ++ []) = w := List.append_nil w
      rw [hlast] at hend ⊢
      exact readPlainWithin_last hmarker hcomment hword hne hend
    · have hwidth : 0 < w.length := List.length_pos_iff.mpr hne
      have hlength : (w ++ (spaces n ++ s')).length = w.length + n + s'.length := by
        rw [List.length_append, List.length_append, length_spaces, Nat.add_assoc]
      rw [hlength] at hend hfuel
      have hrest' : (c.advance (w.length + n)).rest = s' ++ t := by
        rw [← Cursor.advance_advance]
        exact Cursor.rest_advance_spaces (Cursor.rest_advance hrest)
      have hcolumn' : (c.advance (w.length + n)).column = c.column + (w.length + n) := rfl
      rw [readPlainWithin_next hmarker hcomment hword hne hrest hpos (hs'.startsWord t) hcolumn,
        ih hs' hrest' (Cursor.atDocumentMarker_of_column (by omega)) (by omega) (by omega)
          (by rwa [Cursor.advance_advance])]
      simp only [Gap.text, Bool.not_false, if_true, List.append_assoc]

section

variable {margin : Nat} {s t : List Char} {c : Cursor}

/-- **A key is read up to its colon.** -/
theorem readPlain_key (h : IsPlain s) (hrest : c.rest = s ++ ':' :: t) (ht : endsWord t = true)
    (hmarker : c.atDocumentMarker = false) (hcolumn : margin ≤ c.column + 1) :
    readPlain false margin c = some ⟨s, c.advance s.length, false⟩ := by
  have hcolon : (c.advance s.length).rest = ':' :: t := Cursor.rest_advance hrest
  refine readPlainWithin_eq h hrest hmarker hcolumn (Or.inr ⟨rfl, ht⟩) ?_ (.colon ?_ ?_)
  · rw [hrest, List.length_append]
    omega
  · rw [Cursor.atGap, hcolon]
    rfl
  · rw [Cursor.atBreak, hcolon]
    rfl

/-- **A scalar is read up to the end of its line**, and the indentation of the next line after
it, if that is left of the margin. -/
theorem exists_readPlain_line {n : Nat} (h : IsPlain s)
    (hrest : c.rest = s ++ '\n' :: (spaces n ++ t)) (ht : StartsWord t) (hn : n < margin)
    (hmarker : c.atDocumentMarker = false) (hcolumn : margin ≤ c.column + 1) :
    ∃ c' : Cursor, c'.rest = t ∧ c'.column = n ∧ readPlain false margin c = some ⟨s, c', true⟩ := by
  have hnewline : (c.advance s.length).rest = '\n' :: (spaces n ++ t) := Cursor.rest_advance hrest
  obtain ⟨c', hrest', hcolumn', hgap⟩ := @exists_readGap_breaks margin n _ '\n' [] t
    hnewline ht (List.forall_mem_singleton.mpr ⟨by decide, by decide⟩)
  refine ⟨c', hrest', hcolumn', readPlainWithin_eq h hrest hmarker hcolumn (Or.inl (by decide)) ?_
    (.line ?_ hgap (hcolumn' ▸ hn))⟩
  · rw [hrest, List.length_append]
    omega
  · rw [Cursor.atBreak, hnewline]
    rfl

end

/-! ### Texts that may be written this way -/

theorem endsWordOrNull_of_endsWord {s : List Char} (h : endsWord s = true) :
    endsWordOrNull s = true := by
  cases s with
  | nil => rfl
  | cons c s => exact Bool.or_eq_true_iff.mpr (Or.inl h)

theorem hasIndicatorAfter_colon {a b : List Char} (hb : endsWord b = true) (previous : Char) :
    hasIndicatorAfter previous (a ++ ':' :: b) = true := by
  induction a generalizing previous with
  | nil => simp [hasIndicatorAfter, endsWordOrNull_of_endsWord hb]
  | cons c a ih => simp [hasIndicatorAfter, ih]

/-- A hash behind a blank is an indicator. -/
theorem hasIndicatorAfter_comment (a b : List Char) (previous : Char) :
    hasIndicatorAfter previous (a ++ ' ' :: '#' :: b) = true := by
  have hspace : endsWordOrNull [' '] = true := by decide
  induction a generalizing previous with
  | nil => simp [hasIndicatorAfter, hspace]
  | cons c a ih => simp [hasIndicatorAfter, ih]

/-- How a text that is written as a plain scalar begins. -/
theorem of_startsIndicator_eq_false {c : Char} {s : List Char}
    (h : startsIndicator (c :: s) = false) :
    c ∉ leadingIndicators ∧ (c = '?' ∨ c = ':' ∨ c = '-' → endsWordOrNull s = false) := by
  simp only [startsIndicator, Bool.or_eq_false_iff, Bool.and_eq_false_imp, Bool.or_eq_true,
    beq_iff_eq, List.contains_eq_mem, decide_eq_false_iff_not, or_assoc] at h
  exact h.2

/-- What is asked of a text that is written as a plain scalar. -/
theorem allowsPlain_iff {s : List Char} :
    allowsPlain s = true ↔ needsEscapes s = false ∧ (∀ c ∈ s, isBreak c = false) ∧
      (∀ c ∈ s.head?, c ≠ ' ') ∧ (∀ c ∈ s.getLast?, c ≠ ' ') ∧ hasIndicator s = false := by
  simp only [allowsPlain, isAtEdge, isSpace, Bool.not_eq_true', Bool.or_eq_false_iff,
    List.any_eq_false, Option.any_eq_false, and_assoc, Bool.not_eq_true, beq_eq_false_iff_ne,
    Option.mem_def]

/-- A text that may be written without quotes consists of words, none of which looks like the end of
a scalar. -/
theorem isPlain_of_allowsPlain {s : List Char} (hne : s ≠ []) (h : allowsPlain s = true) :
    IsPlain s := by
  obtain ⟨hescapes, hbreaks, hhead, hlast, hindicator⟩ := allowsPlain_iff.mp h
  obtain ⟨c, s, rfl⟩ := List.exists_cons_of_ne_nil hne
  obtain ⟨hstart, hafter⟩ := Bool.or_eq_false_iff.mp hindicator
  dsimp only at hafter
  refine ⟨hne, fun d hd hseparator => ?_, fun d hd => ⟨hhead d hd, ?_⟩, hlast, fun a b hab => ?_,
    fun a b hab => ?_⟩
  · exact eq_space_of_isPrintable hseparator (isPrintable_of_needsEscapes_eq_false hescapes d hd)
      (hbreaks d hd)
  · rintro rfl
    obtain rfl := Option.some.inj hd
    exact (of_startsIndicator_eq_false hstart).1 (by decide)
  · refine Bool.eq_false_iff.mpr fun hb => ?_
    cases a with
    | nil =>
      obtain ⟨rfl, rfl⟩ := List.cons.inj hab
      -- A colon at the start of the text is an indicator of its own.
      have hnull := (of_startsIndicator_eq_false hstart).2 (Or.inr (Or.inl rfl))
      exact Bool.eq_false_iff.mp hnull (endsWordOrNull_of_endsWord hb)
    | cons d a =>
      obtain ⟨rfl, rfl⟩ := List.cons.inj hab
      exact Bool.eq_false_iff.mp hafter (hasIndicatorAfter_colon hb c)
  · cases a with
    | nil =>
      obtain ⟨rfl, rfl⟩ := List.cons.inj hab
      exact hhead ' ' rfl rfl
    | cons d a =>
      obtain ⟨rfl, rfl⟩ := List.cons.inj hab
      exact Bool.eq_false_iff.mp hafter (hasIndicatorAfter_comment a b c)

/-- No marker stands where a plain scalar does. -/
theorem atMarker_eq_false {c : Cursor} {d : Char} {s t : List Char} (hrest : c.rest = s ++ t)
    (hs : ¬ [d, d, d] <+: s) (ht : ∀ e ∈ t.head?, e ≠ d) : c.atMarker d = false := by
  rw [Cursor.atMarker, hrest]
  refine Bool.and_eq_false_iff.mpr (Or.inr ?_)
  split
  · next x y z u heq =>
    refine Bool.eq_false_iff.mpr fun hmarker => ?_
    simp only [Bool.and_eq_true, beq_iff_eq] at hmarker
    obtain ⟨⟨⟨hx, hy⟩, hz⟩, -⟩ := hmarker
    have hbegins : [d, d, d] <+: s ++ t := ⟨u, by rw [heq, hx, hy, hz]; rfl⟩
    -- Three marks in a row would stand in the scalar, or reach behind it, where no mark follows.
    rcases List.prefix_or_prefix_of_prefix hbegins (List.prefix_append s t) with hle | ⟨v, hv⟩
    · exact hs hle
    · cases v with
      | nil => exact hs ⟨[], by rw [← hv, List.append_nil, List.append_nil]⟩
      | cons e v =>
        rw [← hv, List.prefix_append_right_inj] at hbegins
        obtain ⟨t, rfl⟩ := hbegins
        refine ht e rfl ?_
        have he : e ∈ [d, d, d] := hv ▸ List.mem_append_right s List.mem_cons_self
        simpa using he
  · rfl

/-- No marker of a document stands where a text that may be written as a plain scalar does. -/
theorem atMarker_of_allowsPlain {c : Cursor} {s t : List Char} (h : allowsPlain s = true)
    (hrest : c.rest = s ++ t) (ht : EndsPlain t) :
    c.atMarker '-' = false ∧ c.atMarker '.' = false := by
  obtain ⟨-, -, -, -, hindicator⟩ := allowsPlain_iff.mp h
  have hstart := (Bool.or_eq_false_iff.mp ((Bool.or_eq_false_iff.mp hindicator).1)).1
  have hmarkers := Bool.or_eq_false_iff.mp hstart
  have hends : ∀ e ∈ t.head?, e ≠ '-' ∧ e ≠ '.' := by
    intro e he
    obtain ⟨t, rfl⟩ := List.head?_eq_some_iff.mp he
    rcases ht with hseparator | ⟨rfl, -⟩
    · constructor <;> rintro rfl <;> exact absurd hseparator (by decide)
    · decide
  constructor
  · refine atMarker_eq_false hrest ?_ fun e he => (hends e he).1
    rw [← List.isPrefixOf_iff_prefix, hmarkers.1]
    exact Bool.false_ne_true
  · refine atMarker_eq_false hrest ?_ fun e he => (hends e he).2
    rw [← List.isPrefixOf_iff_prefix, hmarkers.2]
    exact Bool.false_ne_true

/-- A plain scalar begins with none of the signs that begin something else. The cases are those of
the reader, which looks for one sign after the other. -/
theorem fetch_of_startsPlain {l : Layout} {c : Char} {s : List Char}
    (hrest : l.cursor.rest = c :: s)
    (hflow : l.inFlow = false) (hleading : c ∉ leadingIndicators)
    (hsign : c = '?' ∨ c = ':' ∨ c = '-' → endsWord s = false) (hstarts : l.startsPlain = true)
    (hdash : l.cursor.atMarker '-' = false) (hdot : l.cursor.atMarker '.' = false) :
    l.fetch = l.fetchPlain := by
  have hsigns : leadingIndicators =
      ['#', ',', '[', ']', '\x7b', '\x7d', '&', '*', '!', '|', '>', '\'', '"', '%', '@',
        '\x60'] := by
    decide
  simp only [hsigns, List.mem_cons, List.not_mem_nil, or_false, not_or] at hleading
  obtain ⟨-, hcomma, hopen, hclose, hbrace, hunbrace, hanchor, halias, htag, hbar, hfold, hsingle,
    hdouble, hpercent, -, -⟩ := hleading
  have hitem : ¬ (c = '-' ∧ endsWord s = true) := fun h => by
    rw [hsign (Or.inr (Or.inr h.1))] at h
    exact nomatch h.2
  have hkey : ¬ (c = '?' ∧ endsWord s = true) := fun h => by
    rw [hsign (Or.inl h.1)] at h
    exact nomatch h.2
  have hvalue : ¬ (c = ':' ∧ endsWord s = true) := fun h => by
    rw [hsign (Or.inr (Or.inl h.1))] at h
    exact nomatch h.2
  -- Every branch before the last asks for one of these characters.
  unfold Layout.fetch
  simp only [hrest, hdash, hdot, hflow, hcomma, hopen, hclose, hbrace, hunbrace, hanchor, halias,
    htag, hbar, hfold, hsingle, hdouble, hpercent, hitem, hkey, hvalue, hstarts, and_false,
    false_and,
    Bool.false_eq_true, Bool.false_or, if_false, if_true]

/-- **A text that may be written as a plain scalar** is taken for one. -/
theorem fetch_eq_fetchPlain {l : Layout} {s t : List Char} (hne : s ≠ [])
    (h : allowsPlain s = true) (hrest : l.cursor.rest = s ++ t) (ht : EndsPlain t)
    (hflow : l.inFlow = false) : l.fetch = l.fetchPlain := by
  have hword := (isPlain_of_allowsPlain hne h).startsWord t
  obtain ⟨-, -, -, -, hindicator⟩ := allowsPlain_iff.mp h
  obtain ⟨c, s, rfl⟩ := List.exists_cons_of_ne_nil hne
  obtain ⟨hstart, -⟩ := Bool.or_eq_false_iff.mp hindicator
  obtain ⟨hleading, hsign⟩ := of_startsIndicator_eq_false hstart
  obtain ⟨hdash, hdot⟩ := atMarker_of_allowsPlain h hrest ht
  have hsign' : c = '?' ∨ c = ':' ∨ c = '-' → endsWord s = false := fun hc =>
    Bool.eq_false_iff.mpr fun h => Bool.eq_false_iff.mp (hsign hc) (endsWordOrNull_of_endsWord h)
  have hall : Layout.indicators.all leadingIndicators.contains = true := by decide
  have hindicators : c ∉ Layout.indicators := fun hc =>
    hleading (List.contains_iff_mem.mp (List.all_eq_true.mp hall c hc))
  have hstarts : l.startsPlain = true := by
    rw [List.cons_append] at hrest hword
    unfold Layout.startsPlain
    simp only [hrest, startsWord_cons.mp hword, List.contains_eq_mem, hindicators, hflow,
      decide_false, Bool.or_false, Bool.false_eq_true, if_false, beq_iff_eq, Bool.or_eq_true]
    split
    · next hc => exact isGap_of_endsWord_eq_false (endsWord_append (hsign' (Or.inr (Or.inr hc))))
    · split
      · next hc =>
        rw [endsWord_append (hsign' (hc.imp_right Or.inl))]
        rfl
      · rfl
  exact fetch_of_startsPlain hrest hflow hleading (fun hc => endsWord_append (hsign' hc)) hstarts
    hdash hdot

end Yaml

end EntityScript
