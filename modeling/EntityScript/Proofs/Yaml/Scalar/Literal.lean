import EntityScript.Proofs.Yaml.Gaps
import EntityScript.Yaml.Scalar.Block

/-!
# Literal scalars are read back

The body of a literal scalar consists of runs of line ends, and of lines that are indented when a
line end stands before them. The reader takes the lines off one by one, each with the line ends
behind it (`exists_readLinesWithin_line`), so at the end it has the text up to the line ends behind
it, and these apart (`exists_readLinesWithin`). How many of them there are is what the header says,
so together they are the text (`exists_readBlock`).
-/

namespace EntityScript

namespace Yaml

/-! ### Bodies -/

/-- A line is written as it is, and an indentation stands before what follows its end. -/
theorem literalBody_line (indent : Nat) {w bs u : List Char} (hw : ∀ c ∈ w, isBreak c = false)
    (hbs : ∀ b ∈ bs, isBreak b = true) (hne : bs ≠ []) :
    literalBody indent false (w ++ (bs ++ u)) = w ++ literalBody indent true (bs ++ u) := by
  induction w with
  | nil =>
    obtain ⟨b, bs, rfl⟩ := List.exists_cons_of_ne_nil hne
    simp [literalBody, hbs b List.mem_cons_self]
  | cons c w ih =>
    obtain ⟨hc, hrest⟩ := List.forall_mem_cons.mp hw
    simp [literalBody, hc, ih hrest]

/-- A last line is written as it is. -/
theorem literalBody_last (indent : Nat) {w : List Char} (hw : ∀ c ∈ w, isBreak c = false) :
    literalBody indent false w = w := by
  induction w with
  | nil => rfl
  | cons c w ih =>
    obtain ⟨hc, hrest⟩ := List.forall_mem_cons.mp hw
    simp [literalBody, hc, ih hrest]

/-- Line ends are written as they are, and none of them is indented. -/
theorem literalBody_breaks (indent : Nat) {bs : List Char} (u : List Char)
    (hbs : ∀ b ∈ bs, isBreak b = true) :
    literalBody indent true (bs ++ u) = bs ++ literalBody indent true u := by
  induction bs with
  | nil => rfl
  | cons b bs ih =>
    obtain ⟨hb, hrest⟩ := List.forall_mem_cons.mp hbs
    simp [literalBody, hb, ih hrest]

theorem literalBody_indented (indent : Nat) {u : List Char} (hu : ∀ c ∈ u.head?, isBreak c = false)
    (hne : u ≠ []) :
    literalBody indent true u = spaces indent ++ literalBody indent false u := by
  obtain ⟨c, u, rfl⟩ := List.exists_cons_of_ne_nil hne
  simp [literalBody, hu c rfl]

/-- A line does not begin with a line end, and neither does its body. -/
theorem head_literalBody (indent : Nat) {u : List Char} (hu : ∀ c ∈ u.head?, isBreak c = false)
    (hne : u ≠ []) (t : List Char) :
    ∀ c ∈ (literalBody indent false u ++ t).head?, isBreak c = false := by
  obtain ⟨c, u, rfl⟩ := List.exists_cons_of_ne_nil hne
  simp [literalBody, hu c rfl]

/-- A body is no shorter than the text. -/
theorem length_le_literalBody (indent : Nat) (broken : Bool) (u : List Char) :
    u.length ≤ (literalBody indent broken u).length := by
  induction u generalizing broken with
  | nil => exact Nat.zero_le _
  | cons c u ih =>
    have htrue := ih true
    have hfalse := ih false
    rw [literalBody]
    split <;> simp only [List.length_append, List.length_cons] <;> omega

/-- The body of a text that is not empty is not empty. -/
theorem literalBody_ne_nil (indent : Nat) (broken : Bool) {u : List Char} (hne : u ≠ []) :
    literalBody indent broken u ≠ [] := by
  intro hnil
  have hle := length_le_literalBody indent broken u
  rw [hnil] at hle
  exact hne (List.length_eq_zero_iff.mp (Nat.le_zero.mp hle))

/-! ### Empty lines -/

/-- The indentation of a line ends here: the line goes on with a text after as many spaces as are
asked for, or it is no line of the scalar. -/
def EndsIndentation (given : Option Nat) (n : Nat) (t : List Char) : Prop :=
  (given = some n ∧ ∀ c ∈ t.head?, isBreak c = false) ∨ (∀ m ∈ given, n < m) ∧ StartsWord t

variable {given : Option Nat} {n : Nat} {t : List Char} {c : Cursor}

/-- The indentation is passed over, whether it is known or still to be found. -/
theorem skipIndentation_eq (hrest : c.rest = spaces n ++ t) (hcolumn : c.column = 0)
    (ht : EndsIndentation given n t) : skipIndentation given c = c.advance n := by
  rcases ht with ⟨rfl, -⟩ | ⟨hgiven, hword⟩
  · have hle : n ≤ (c.span (· == ' ')).length := by
      rw [Cursor.span, hrest, List.takeWhile_append_of_pos fun d hd =>
        beq_iff_eq.mpr (List.eq_of_mem_replicate hd), List.length_append, length_spaces]
      exact Nat.le_add_right _ _
    simp only [skipIndentation, hcolumn, Nat.sub_zero, Nat.min_eq_right hle]
  · have hlength : (c.span (· == ' ')).length = n := by
      rw [Cursor.span_spaces rfl (fun d hd => by rw [beq_iff_eq.mp hd]; rfl) hrest hword,
        length_spaces]
    cases given with
    | none => simp only [skipIndentation, hlength]
    | some m =>
      simp only [skipIndentation, hlength, hcolumn, Nat.sub_zero,
        Nat.min_eq_left (Nat.le_of_lt (hgiven m rfl))]

/-- There is no indentation before a line end. -/
theorem skipIndentation_break {b : Char} (hrest : c.rest = b :: t) (hb : isBreak b = true) :
    skipIndentation given c = c := by
  have hspan : c.span (· == ' ') = [] := by
    rw [Cursor.span, hrest]
    refine List.takeWhile_cons_of_neg fun hd => ?_
    rw [beq_iff_eq.mp hd] at hb
    exact absurd hb (by decide)
  have hadvance : c.advance 0 = c := rfl
  cases given <;> simp only [skipIndentation, hspan, List.length_nil, Nat.zero_min, hadvance]

/-- No line end stands where the indentation ends, and no tab if there could be more of it. -/
theorem EndsIndentation.head (ht : EndsIndentation given n t) :
    (∀ d ∈ t.head?, isBreak d = false) ∧ (given = some n ∨ startsWith '\t' t = false) := by
  rcases ht with ⟨hgiven, ht⟩ | ⟨-, hword⟩
  · exact ⟨ht, Or.inl hgiven⟩
  · refine ⟨fun d hd => isBreak_of_isSeparator_eq_false (hword d hd), Or.inr ?_⟩
    refine beq_false_of_ne fun htab => ?_
    exact absurd (hword '\t' htab) (by decide)

/-- The line after the indentation is not empty, so the empty lines end before it. -/
theorem readEmptyLinesWithin_end {fuel : Nat} {e : EmptyLines} (hrest : c.rest = spaces n ++ t)
    (hcolumn : c.column = 0) (ht : EndsIndentation given n t) :
    readEmptyLinesWithin given (fuel + 1) e c =
      some (⟨e.breaks, max e.deepest n⟩, c.advance n) := by
  obtain ⟨hhead, htab⟩ := ht.head
  have hend : (c.advance n).rest = t := Cursor.rest_advance_spaces hrest
  have hatBreak : (c.advance n).atBreak = false := by
    rw [Cursor.atBreak, hend, Option.any_eq_false]
    exact hhead
  rw [readEmptyLinesWithin.eq_def]
  simp only [skipIndentation_eq hrest hcolumn ht]
  rcases htab with rfl | htab
  · simp [hatBreak, hcolumn]
  · simp [hatBreak, hend, htab, hcolumn]

/-- A line end without an indentation is an empty line. -/
theorem readEmptyLinesWithin_break {fuel : Nat} {e : EmptyLines} {b : Char}
    (hrest : c.rest = b :: t) (hcolumn : c.column = 0) (hbreak : isBreak b = true)
    (hprintable : isPrintable b = true) :
    readEmptyLinesWithin given (fuel + 1) e c =
      readEmptyLinesWithin given fuel { e with breaks := e.breaks ++ [b] } c.nextLine := by
  have hatBreak : c.atBreak = true := by simp [Cursor.atBreak, hrest, hbreak]
  have htab : startsWith '\t' c.rest = false := by
    rw [hrest]
    refine beq_false_of_ne fun htab => ?_
    rw [Option.some.inj htab] at hbreak
    exact absurd hbreak (by decide)
  rw [readEmptyLinesWithin.eq_def]
  simp only [skipIndentation_break hrest hbreak]
  simp [hatBreak, htab, hcolumn, breakText_of_isPrintable hrest hbreak hprintable]

/-- Empty lines without blanks are read, and the indentation of the line after them. -/
theorem exists_readEmptyLinesWithin {bs : List Char} {fuel : Nat} {e : EmptyLines}
    (hrest : c.rest = bs ++ (spaces n ++ t)) (hcolumn : c.column = 0)
    (hbs : ∀ b ∈ bs, isBreak b = true ∧ isPrintable b = true) (ht : EndsIndentation given n t)
    (hfuel : bs.length < fuel) :
    ∃ c' : Cursor, c'.rest = t ∧ c'.column = n ∧
      readEmptyLinesWithin given fuel e c = some (⟨e.breaks ++ bs, max e.deepest n⟩, c') := by
  obtain ⟨fuel, rfl⟩ := Nat.exists_eq_add_one_of_ne_zero (Nat.ne_zero_of_lt hfuel)
  induction bs generalizing fuel e c with
  | nil =>
    refine ⟨c.advance n, Cursor.rest_advance_spaces hrest, ?_, ?_⟩
    · rw [Cursor.column_advance, hcolumn, Nat.zero_add]
    · rw [readEmptyLinesWithin_end hrest hcolumn ht, List.append_nil]
  | cons b bs ih =>
    obtain ⟨⟨hbreak, hprintable⟩, hmore⟩ := List.forall_mem_cons.mp hbs
    have hfuel' : bs.length < fuel := Nat.lt_of_succ_lt_succ hfuel
    obtain ⟨fuel, rfl⟩ := Nat.exists_eq_add_one_of_ne_zero (Nat.ne_zero_of_lt hfuel')
    obtain ⟨c', hrest', hcolumn', hread⟩ := @ih c.nextLine { e with breaks := e.breaks ++ [b] }
      (Cursor.rest_nextLine hrest (ne_carriageReturn_of_isPrintable hprintable)) rfl hmore fuel
      hfuel'
    refine ⟨c', hrest', hcolumn', ?_⟩
    rw [readEmptyLinesWithin_break hrest hcolumn hbreak hprintable, hread, List.append_assoc]
    rfl

/-- Empty lines are read to the indentation of the line after them. -/
theorem exists_readEmptyLines {bs : List Char} (hrest : c.rest = bs ++ (spaces n ++ t))
    (hcolumn : c.column = 0) (hbs : ∀ b ∈ bs, isBreak b = true ∧ isPrintable b = true)
    (ht : EndsIndentation given n t) :
    ∃ c' : Cursor, c'.rest = t ∧ c'.column = n ∧ readEmptyLines given c = some (⟨bs, n⟩, c') := by
  have hfuel : bs.length < c.rest.length + 1 := by
    rw [hrest, List.length_append]
    omega
  obtain ⟨c', hrest', hcolumn', hread⟩ := exists_readEmptyLinesWithin hrest hcolumn hbs ht hfuel
  exact ⟨c', hrest', hcolumn', by rw [readEmptyLines, hread, Nat.zero_max]; rfl⟩

/-! ### Lines -/

variable {indent : Nat}

/-- A line is taken off with its end and the empty lines behind it. These are kept apart, as it is
not clear yet whether more text follows. -/
theorem exists_readLinesWithin_line {fuel : Nat} {b : BlockText} {w ends : List Char} {e : Char}
    (hrest : c.rest = w ++ (e :: ends ++ (spaces n ++ t))) (hcolumn : c.column = indent)
    (hw : ∀ d ∈ w, isBreak d = false)
    (hends : ∀ d ∈ e :: ends, isBreak d = true ∧ isPrintable d = true)
    (ht : EndsIndentation (some indent) n t) :
    ∃ (c' : Cursor) (startsBlank : Bool), c'.rest = t ∧ c'.column = n ∧
      readLinesWithin false indent (fuel + 1) b c =
        readLinesWithin false indent fuel
          ⟨b.text ++ (b.lineEnd ++ b.emptyLines) ++ w, [e], ends, startsBlank⟩ c' := by
  obtain ⟨⟨hbreak, hprintable⟩, hmore⟩ := List.forall_mem_cons.mp hends
  have hline : c.span (!isBreak ·) = w := by
    rw [Cursor.span, hrest, List.takeWhile_append_of_pos fun d hd => by simp [hw d hd],
      List.cons_append, List.takeWhile_cons_of_neg (by simp [hbreak]), List.append_nil]
  have hend : (c.advance w.length).rest = e :: (ends ++ (spaces n ++ t)) :=
    Cursor.rest_advance hrest
  have hskip : (c.advance w.length).skipBreak = (c.advance w.length).nextLine := by
    simp [Cursor.skipBreak, Cursor.atBreak, hend, hbreak]
  -- A printable break is no carriage return, so every one of them is a single character.
  obtain ⟨c', hrest', hcolumn', hread⟩ := exists_readEmptyLines
    (Cursor.rest_nextLine hend (ne_carriageReturn_of_isPrintable hprintable)) rfl hmore ht
  refine ⟨c', c.atGap, hrest', hcolumn', ?_⟩
  have hnonempty : c.rest.isEmpty = false := by
    rw [hrest]
    simp
  rw [readLinesWithin, if_neg (by simp [hcolumn, hnonempty])]
  simp [hline, hskip, hread, breakText_of_isPrintable hend hbreak hprintable, BlockText.separation]

theorem readLinesWithin_end {fuel : Nat} (b : BlockText) (hcolumn : c.column ≠ indent) :
    readLinesWithin false indent fuel b c = some (b, c) := by
  cases fuel with
  | zero => rfl
  | succ fuel => rw [readLinesWithin, if_pos (Or.inl hcolumn)]

/-- The line feed that is written behind a text, unless a line end is there already. -/
def lineFeedAfter (s : List Char) : List Char :=
  if s.getLast?.any isBreak then [] else ['\n']

theorem lineFeedAfter_append (s : List Char) {t : List Char} (ht : t ≠ []) :
    lineFeedAfter (s ++ t) = lineFeedAfter t := by
  obtain ⟨d, hd⟩ := Option.ne_none_iff_exists'.mp (mt List.getLast?_eq_none_iff.mp ht)
  simp [lineFeedAfter, List.getLast?_append, hd]

theorem lineFeedAfter_of_isBreak {s : List Char} (hs : ∀ d ∈ s, isBreak d = true) (hne : s ≠ []) :
    lineFeedAfter s = [] := by
  obtain ⟨d, hd⟩ := Option.ne_none_iff_exists'.mp (mt List.getLast?_eq_none_iff.mp hne)
  simp [lineFeedAfter, hd, hs d (List.mem_of_getLast? hd)]

/-- A line feed is added behind a text that does not end in a line end. -/
theorem lineFeedAfter_of_not_isBreak {s : List Char} (hs : ∀ d ∈ s.getLast?, isBreak d = false) :
    lineFeedAfter s = ['\n'] := by
  have hlast : s.getLast?.any isBreak = false := (Option.any_eq_false _ _).mpr hs
  simp [lineFeedAfter, hlast]

/-- The indentations change nothing at the end. -/
theorem lineFeedAfter_literalBody (indent : Nat) (broken : Bool) {s : List Char} (hne : s ≠ []) :
    lineFeedAfter (literalBody indent broken s) = lineFeedAfter s := by
  induction s generalizing broken with
  | nil => exact absurd rfl hne
  | cons c s ih =>
    have hshape : ∃ before broken', literalBody indent broken (c :: s) =
        before ++ ([c] ++ literalBody indent broken' s) := by
      rw [literalBody]
      split
      · exact ⟨[], true, rfl⟩
      · exact ⟨_, false, rfl⟩
    obtain ⟨before, broken', heq⟩ := hshape
    rw [heq, lineFeedAfter_append _ (List.append_ne_nil_of_left_ne_nil (List.cons_ne_nil c []) _)]
    by_cases hs : s = []
    · subst hs
      rfl
    · rw [lineFeedAfter_append _ (literalBody_ne_nil indent broken' hs), ih broken' hs]
      exact (lineFeedAfter_append [c] hs).symm

/-- A text with a line end behind it is divided before the line ends at its end. -/
structure EndsAt (s w : List Char) (e : Char) (es : List Char) : Prop where
  eq : s ++ lineFeedAfter s = w ++ e :: es
  isBreak : ∀ d ∈ e :: es, isBreak d = true
  ne_nil : w ≠ []
  last : ∀ d ∈ w.getLast?, Yaml.isBreak d = false

/-- What stands before a text does not change how it ends. -/
theorem EndsAt.append {s w es : List Char} {e : Char} (h : EndsAt s w e es) (hs : s ≠ [])
    (v : List Char) : EndsAt (v ++ s) (v ++ w) e es := by
  refine ⟨?_, h.isBreak, List.append_ne_nil_of_right_ne_nil v h.ne_nil, fun d hd => ?_⟩
  · rw [lineFeedAfter_append v hs, List.append_assoc, h.eq, List.append_assoc]
  · obtain ⟨l, hl⟩ := Option.ne_none_iff_exists'.mp (mt List.getLast?_eq_none_iff.mp h.ne_nil)
    rw [List.getLast?_append, hl, Option.some_or] at hd
    exact h.last d (hl ▸ hd)

/-- A last line is written with the line ends behind it, or with a line feed if there are none. -/
theorem exists_endsAt (indent : Nat) {w ends : List Char} (hne : w ≠ [])
    (hw : ∀ d ∈ w, isBreak d = false) (hends : ∀ d ∈ ends, isBreak d = true) :
    ∃ e es, EndsAt (w ++ ends) w e es ∧ (∀ d ∈ e :: es, d ∈ ends ∨ d = '\n') ∧
      literalBody indent false (w ++ ends) ++ lineFeedAfter (w ++ ends) = w ++ e :: es := by
  -- The writer adds a line feed exactly when the text does not end in a break itself.
  have hlast : ∀ d ∈ w.getLast?, isBreak d = false := fun d hd => hw d (List.mem_of_getLast? hd)
  cases ends with
  | nil =>
    have hfeed := lineFeedAfter_of_not_isBreak hlast
    rw [List.append_nil, literalBody_last _ hw, hfeed]
    exact ⟨'\n', [], ⟨by rw [hfeed], List.forall_mem_singleton.mpr (by decide), hne, hlast⟩,
      List.forall_mem_singleton.mpr (Or.inr rfl), rfl⟩
  | cons e es =>
    have hbody : literalBody indent false (w ++ e :: es) = w ++ e :: es := by
      have hline := literalBody_line indent (u := []) hw hends (List.cons_ne_nil e es)
      rw [literalBody_breaks _ _ hends] at hline
      simpa [literalBody] using hline
    have hfeed : lineFeedAfter (w ++ e :: es) = [] := by
      rw [lineFeedAfter_append _ (List.cons_ne_nil e es),
        lineFeedAfter_of_isBreak hends (List.cons_ne_nil e es)]
    exact ⟨e, es, ⟨by rw [hfeed, List.append_nil], hends, hne, hlast⟩, fun d hd => Or.inl hd,
      by rw [hbody, hfeed, List.append_nil]⟩

/-- The lines of a body are read up to the line ends behind the text. The induction is on the fuel,
which covers the text; each step takes one line with its line ends. -/
theorem exists_readLinesWithin {k fuel : Nat} {u r : List Char} {b : BlockText} (hne : u ≠ [])
    (hhead : ∀ d ∈ u.head?, isBreak d = false) (hprintable : ∀ d ∈ u, isPrintable d = true)
    (hrest : c.rest = literalBody indent false u ++ (lineFeedAfter u ++ (spaces k ++ r)))
    (hcolumn : c.column = indent) (hk : k < indent) (hr : StartsWord r) (hfuel : u.length ≤ fuel) :
    ∃ (w : List Char) (e : Char) (es : List Char) (startsBlank : Bool) (c' : Cursor),
      EndsAt u w e es ∧ c'.rest = r ∧ c'.column = k ∧
        readLinesWithin false indent fuel b c =
          some (⟨b.text ++ (b.lineEnd ++ b.emptyLines) ++ w, [e], es, startsBlank⟩, c') := by
  have hlast : EndsIndentation (some indent) k r :=
    Or.inr ⟨fun m hm => Option.some.inj hm ▸ hk, hr⟩
  induction fuel generalizing u b c with
  | zero => exact absurd (List.length_eq_zero_iff.mp (Nat.le_zero.mp hfuel)) hne
  | succ fuel ih =>
    obtain ⟨w, ends, u', rfl, hw, hends, hu', hend⟩ := exists_run_eq isBreak u
    have hneWord : w ≠ [] := by
      rintro rfl
      cases ends with
      | nil => exact hne (hend rfl)
      | cons d ends =>
        exact Bool.eq_false_iff.mp (hhead d rfl) (hends d List.mem_cons_self)
    have hwritten : ∀ d ∈ ends, isBreak d = true ∧ isPrintable d = true := fun d hd =>
      ⟨hends d hd, hprintable d (List.mem_append_right _ (List.mem_append_left _ hd))⟩
    by_cases hmore : u' = []
    · -- The last line, after which the indentation is left of the scalar.
      subst hmore
      rw [List.append_nil] at hrest ⊢
      obtain ⟨e, es, hat, hmem, hbody⟩ := exists_endsAt indent hneWord hw hends
      rw [← List.append_assoc, hbody, List.append_assoc] at hrest
      have hlines : ∀ d ∈ e :: es, isBreak d = true ∧ isPrintable d = true := fun d hd =>
        (hmem d hd).elim (hwritten d) fun heq => heq ▸ ⟨by decide, by decide⟩
      obtain ⟨c', sb, hrest', hcolumn', hread⟩ :=
        exists_readLinesWithin_line hrest hcolumn hw hlines hlast
      exact ⟨w, e, es, sb, c', hat, hrest', hcolumn', by
        rw [hread, readLinesWithin_end _ (by omega)]⟩
    · obtain ⟨e, es, rfl⟩ := List.exists_cons_of_ne_nil (mt hend hmore)
      rw [literalBody_line _ hw hends (List.cons_ne_nil e es), literalBody_breaks _ _ hends,
        List.append_assoc, lineFeedAfter_append w (List.append_ne_nil_of_right_ne_nil _ hmore),
        lineFeedAfter_append _ hmore, literalBody_indented _ hu' hmore] at hrest
      simp only [List.append_assoc] at hrest
      obtain ⟨c₁, sb₁, hrest₁, hcolumn₁, hread₁⟩ := exists_readLinesWithin_line hrest hcolumn hw
        hwritten (Or.inl ⟨rfl, head_literalBody _ hu' hmore _⟩)
      have hlength : u'.length ≤ fuel := by
        simp only [List.length_append, List.length_cons] at hfuel
        omega
      obtain ⟨w', e', es', sb, c', hends', hrest', hcolumn', hread⟩ := ih hmore hu'
        (fun d hd => hprintable d (List.mem_append_right _ (List.mem_append_right _ hd)))
        hrest₁ hcolumn₁ hlength
      refine ⟨w ++ (e :: es ++ w'), e', es', sb, c', ?_, hrest', hcolumn', ?_⟩
      · have happend := hends'.append hmore (w ++ (e :: es))
        rwa [List.append_assoc, List.append_assoc] at happend
      · rw [hread₁, hread]
        simp [List.append_assoc]

/-! ### Line ends behind the text -/

/-- A text without a line end at its end is written with a minus. -/
theorem chompingHint_strip {v : List Char} (hv : ∀ d ∈ v.getLast?, isBreak d = false) :
    chompingHint v = ['-'] := by
  rw [← List.head?_reverse] at hv
  rw [chompingHint]
  cases hrev : v.reverse with
  | nil => rfl
  | cons d before =>
    rw [hrev] at hv
    simp [hv d rfl]

/-- A text with one line end at its end is written without a hint. -/
theorem chompingHint_clip {v : List Char} {e : Char} (hne : v ≠ [])
    (hv : ∀ d ∈ v.getLast?, isBreak d = false) (he : isBreak e = true) :
    chompingHint (v ++ [e]) = [] := by
  rw [← List.head?_reverse] at hv
  rw [chompingHint, List.reverse_concat]
  cases hrev : v.reverse with
  | nil => exact absurd (List.reverse_eq_nil_iff.mp hrev) hne
  | cons d before =>
    rw [hrev] at hv
    simp [hv d rfl, he]

/-- A text with several line ends at its end is written with a plus. -/
theorem chompingHint_keep {e x : Char} {es : List Char}
    (h : ∀ d ∈ e :: x :: es, isBreak d = true) (v : List Char) :
    chompingHint (v ++ e :: x :: es) = ['+'] := by
  induction es generalizing v e x with
  | nil =>
    simp [chompingHint, h e List.mem_cons_self, h x (List.mem_cons_of_mem e List.mem_cons_self)]
  | cons y es ih =>
    have hstep := ih (fun d hd => h d (List.mem_cons_of_mem e hd)) (v ++ [e])
    rwa [List.append_assoc] at hstep

/-- What a header says becomes of the line ends. -/
def chompingBy (hint : List Char) : Chomping :=
  (chompingOf? hint).getD .clip

/-- The line ends that the header leaves make the lines up to the text. The cases are those of the
hint: no line end, one, or several. -/
theorem EndsAt.chomp_eq {u w es : List Char} {e : Char} (h : EndsAt u w e es) (bs : List Char)
    (startsBlank : Bool) :
    BlockText.chomp ⟨bs ++ w, [e], es, startsBlank⟩ (chompingBy (chompingHint (bs ++ u))) =
      bs ++ u := by
  have hlast : ∀ d ∈ (bs ++ w).getLast?, Yaml.isBreak d = false := by
    obtain ⟨l, hl⟩ := Option.ne_none_iff_exists'.mp (mt List.getLast?_eq_none_iff.mp h.ne_nil)
    simpa [List.getLast?_append, hl] using h.last l hl
  have hne : bs ++ w ≠ [] := List.append_ne_nil_of_right_ne_nil bs h.ne_nil
  have heq := h.eq
  rw [lineFeedAfter] at heq
  split at heq
  · rw [List.append_nil] at heq
    rw [heq, ← List.append_assoc]
    cases es with
    | nil =>
      rw [chompingHint_clip hne hlast (h.isBreak e List.mem_cons_self)]
      rfl
    | cons x es =>
      rw [chompingHint_keep h.isBreak]
      exact List.append_assoc _ _ _
  · next hfeed =>
    cases es with
    | nil =>
      obtain ⟨rfl, -⟩ := List.append_inj' heq rfl
      rw [chompingHint_strip hlast]
      rfl
    | cons x es =>
      -- The line feed would be the last of several line ends, and the text would end in the others.
      have hdrop := congrArg List.dropLast heq
      rw [List.dropLast_concat, List.dropLast_append_of_ne_nil (List.cons_ne_nil e _),
        List.dropLast_cons_of_ne_nil (List.cons_ne_nil x es)] at hdrop
      refine absurd ?_ hfeed
      obtain ⟨l, hl⟩ := Option.ne_none_iff_exists'.mp
        (mt List.getLast?_eq_none_iff.mp (List.cons_ne_nil e (x :: es).dropLast))
      have hmem : l ∈ e :: x :: es :=
        (List.cons_subset_cons e (List.dropLast_subset _)) (List.mem_of_getLast? hl)
      rw [hdrop, List.getLast?_append, hl]
      exact h.isBreak l hmem

/-! ### Headers -/

/-- A header is read as it was written, with its two hints. -/
theorem readHeader_eq {s : List Char}
    (hrest : c.rest = indentationHint s ++ (chompingHint s ++ '\n' :: t)) :
    ∃ c' : Cursor, c'.rest = '\n' :: t ∧ readHeader c = some (⟨chompingBy (chompingHint s),
      if indentationHint s = [] then none else some 2⟩, c') := by
  have hrest' : c.rest = indentationHint s ++ chompingHint s ++ '\n' :: t := by
    rw [hrest, List.append_assoc]
  refine ⟨_, Cursor.rest_advance hrest', ?_⟩
  have hchomping : chompingHint s = [] ∨ chompingHint s = ['-'] ∨ chompingHint s = ['+'] := by
    unfold chompingHint
    repeat' split
    all_goals simp
  have hindentation : indentationHint s = [] ∨ indentationHint s = ['2'] := by
    unfold indentationHint
    split
    all_goals simp
  obtain ⟨rest, index, line, column⟩ := c
  obtain rfl : rest = _ := hrest
  rcases hindentation with hi | hi <;> rcases hchomping with hc | hc | hc <;>
    simp [hi, hc, readHeader, readIncrement, chompingOf?, chompingBy, Cursor.advance]

/-- Nothing but its end is left in the line of a header. -/
theorem finishLine_eq (hrest : c.rest = '\n' :: t) : finishLine c = some c.nextLine := by
  have hgap : isGap '\n' = false := by decide
  have hbreak : isBreak '\n' = true := by decide
  have hspan : c.span isGap = [] := by simp [Cursor.span, hrest, hgap]
  have hskip : c.skip isGap = c := by rw [Cursor.skip, hspan]; rfl
  have hcomment : c.skipComment = c := by simp [Cursor.skipComment, hrest, startsWith]
  simp [finishLine, hskip, hcomment, hrest, endsLine, hbreak, Cursor.skipBreak, Cursor.atBreak]

/-! ### Scalars -/

variable {margin : Nat}

/-- The indentation that the header gives, if it does. -/
def givenIndentation (margin : Nat) (s : List Char) : Option Nat :=
  if indentationHint s = [] then none else some (margin + 1)

/-- The header leads to the lines. What is read of these, and by which indentation, is left open
here. -/
theorem exists_readBlock_header {s : List Char} (hmargin : 0 < margin)
    (hrest : c.rest = '|' :: (indentationHint s ++ (chompingHint s ++ '\n' :: t))) :
    ∃ c₁ : Cursor, c₁.rest = t ∧ c₁.column = 0 ∧ ∀ {e c₂ b c'},
      readEmptyLines (givenIndentation margin s) c₁ = some (e, c₂) →
      readLinesWithin false ((givenIndentation margin s).getD (max e.deepest (max margin 1)))
        (c₂.rest.length + 1) { emptyLines := e.breaks } c₂ = some (b, c') →
      readBlock false margin c = some (b.chomp (chompingBy (chompingHint s)), c') := by
  have hsign : (c.advance 1).rest = indentationHint s ++ (chompingHint s ++ '\n' :: t) := by
    rw [Cursor.advance, hrest]
    rfl
  obtain ⟨c₁, hrest₁, hheader⟩ := readHeader_eq hsign
  refine ⟨c₁.nextLine, Cursor.rest_nextLine hrest₁ (by decide), rfl, fun hempty hlines => ?_⟩
  have hgiven : (if indentationHint s = [] then none else some 2).map
      (fun n => margin - 1 + n) = givenIndentation margin s := by
    rw [givenIndentation]
    split
    · rfl
    · exact congrArg some (show margin - 1 + 2 = margin + 1 by omega)
  simp only [readBlock, hheader, finishLine_eq hrest₁, Option.bind_eq_bind, Option.bind_some,
    hgiven, hempty, hlines]

/-- A text that begins with a line end is written with its indentation, which could not be found. -/
theorem indentationHint_break {b : Char} (hb : isBreak b = true) (s : List Char) :
    indentationHint (b :: s) = ['2'] := by
  simp [indentationHint, hb]

/-- The indentation is found, whether it is given or is that of the first line. In both cases it is
the one that was written. -/
theorem endsIndentation_given {bs u : List Char} (hbs : ∀ b ∈ bs, isBreak b = true)
    (hu : ∀ d ∈ u.head?, isBreak d = false)
    (hne : u ≠ []) (hprintable : ∀ d ∈ u, isPrintable d = true) (t : List Char) :
    EndsIndentation (givenIndentation margin (bs ++ u)) (margin + 1)
      (literalBody (margin + 1) false u ++ t) := by
  have hhead := head_literalBody (margin + 1) hu hne t
  rw [givenIndentation]
  split
  · next hhint =>
    -- Without a hint the reader takes the indentation from the first line, which then does not
    -- begin with a space.
    refine Or.inr ⟨(fun m hm => nomatch hm), fun d hd => ?_⟩
    cases bs with
    | cons b bs =>
      rw [List.cons_append, indentationHint_break (hbs b List.mem_cons_self)] at hhint
      cases hhint
    | nil =>
      obtain ⟨c, u, rfl⟩ := List.exists_cons_of_ne_nil hne
      have hc := hu c rfl
      have hspace : isSpace c = false := by simpa [indentationHint, hc] using hhint
      have hd' : c = d := by simpa [literalBody, hc] using hd
      rw [← hd']
      exact Bool.eq_false_iff.mpr fun h => ne_of_beq_false hspace
        (eq_space_of_isPrintable h (hprintable c List.mem_cons_self) hc)
  · exact Or.inl ⟨rfl, hhead⟩

/-- A text of line ends alone has no lines, and all of the line ends are kept. -/
theorem exists_readBlock_breaks {k : Nat} {s r : List Char} (hne : s ≠ [])
    (hs : ∀ d ∈ s, isBreak d = true ∧ isPrintable d = true)
    (hrest : c.rest = '|' :: (indentationHint s ++ (chompingHint s ++ '\n' ::
      (s ++ (spaces k ++ r)))))
    (hmargin : 0 < margin) (hk : k < margin) (hr : StartsWord r) :
    ∃ c' : Cursor, c'.rest = r ∧ c'.column = k ∧ readBlock false margin c = some (s, c') := by
  obtain ⟨c₁, hrest₁, hcolumn₁, hread⟩ := exists_readBlock_header hmargin hrest
  obtain ⟨b, bs, rfl⟩ := List.exists_cons_of_ne_nil hne
  have hbreaks : ∀ d ∈ b :: bs, isBreak d = true := fun d hd => (hs d hd).1
  have hgiven : givenIndentation margin (b :: bs) = some (margin + 1) := by
    rw [givenIndentation, indentationHint_break (hbreaks b List.mem_cons_self)]
    rfl
  -- Every line is empty, so the body has no indentation of its own and all of it is kept.
  have hkeep : chompingHint (b :: bs) = ['+'] := by
    cases bs with
    | nil => simp [chompingHint, hbreaks b List.mem_cons_self]
    | cons d bs => exact chompingHint_keep hbreaks []
  have hend : EndsIndentation (some (margin + 1)) k r :=
    Or.inr ⟨fun m hm => Option.some.inj hm ▸ Nat.lt_succ_of_lt hk, hr⟩
  obtain ⟨c₂, hrest₂, hcolumn₂, hempty⟩ := exists_readEmptyLines hrest₁ hcolumn₁ hs hend
  rw [hgiven] at hread
  refine ⟨c₂, hrest₂, hcolumn₂, ?_⟩
  rw [hread hempty (readLinesWithin_end _ (show c₂.column ≠ margin + 1 by omega)), hkeep]
  rfl

/-- **A text that is written as a literal scalar is read back**, and the indentation of the line
after it, if that is left of the margin. -/
theorem exists_readBlock {k : Nat} {s r : List Char} (hne : s ≠ [])
    (hprintable : ∀ d ∈ s, isPrintable d = true)
    (hrest : c.rest = '|' :: (indentationHint s ++ (chompingHint s ++ '\n' ::
      (literalBody (margin + 1) true s ++ (lineFeedAfter s ++ (spaces k ++ r))))))
    (hmargin : 0 < margin) (hk : k < margin) (hr : StartsWord r) :
    ∃ c' : Cursor, c'.rest = r ∧ c'.column = k ∧ readBlock false margin c = some (s, c') := by
  obtain ⟨bs, u, rfl, hbs, hu⟩ := exists_span_eq isBreak s
  have hwritten : ∀ b ∈ bs, isBreak b = true ∧ isPrintable b = true := fun b hb =>
    ⟨hbs b hb, hprintable b (List.mem_append_left u hb)⟩
  rw [literalBody_breaks _ _ hbs, List.append_assoc] at hrest
  by_cases hlines : u = []
  · subst hlines
    rw [List.append_nil] at hne hrest ⊢
    rw [lineFeedAfter_of_isBreak hbs hne] at hrest
    exact exists_readBlock_breaks hne hwritten hrest hmargin hk hr
  · rw [literalBody_indented _ hu hlines, lineFeedAfter_append bs hlines, List.append_assoc]
      at hrest
    obtain ⟨c₁, hrest₁, hcolumn₁, hread⟩ := exists_readBlock_header hmargin hrest
    have hprintable' : ∀ d ∈ u, isPrintable d = true := fun d hd =>
      hprintable d (List.mem_append_right bs hd)
    obtain ⟨c₂, hrest₂, hcolumn₂, hempty⟩ := exists_readEmptyLines hrest₁ hcolumn₁ hwritten
      (endsIndentation_given hbs hu hlines hprintable' _)
    -- Given or found, the indentation is that of the body.
    have hindent : (givenIndentation margin (bs ++ u)).getD (max (margin + 1) (max margin 1)) =
        margin + 1 := by
      rw [givenIndentation]
      split
      · simp only [Option.getD_none]
        omega
      · rfl
    have hlength : u.length ≤ c₂.rest.length + 1 := by
      have hle := length_le_literalBody (margin + 1) false u
      rw [hrest₂, List.length_append]
      omega
    obtain ⟨w, e, es, sb, c', hends, hrest', hcolumn', hlast⟩ :=
      @exists_readLinesWithin c₂ (margin + 1) k (c₂.rest.length + 1) u r { emptyLines := bs } hlines
        hu hprintable' hrest₂ hcolumn₂ (by omega) hr hlength
    refine ⟨c', hrest', hcolumn', ?_⟩
    rw [hread hempty (by rw [hindent]; exact hlast)]
    exact congrArg (fun s => some (s, c')) (hends.chomp_eq bs sb)

end Yaml

end EntityScript
