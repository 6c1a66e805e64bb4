import EntityScript.Proofs.Yaml.Gaps
import EntityScript.Yaml.Scalar.Quoted
import Mathlib.Algebra.Group.Nat.Defs
import Mathlib.Data.List.Chain

/-!
# Quoted scalars are read back

A text in quotes is written word by word (`WritesWord`), with blanks or line ends between the words
(`Writes`). Whatever is written like that is read back, in either kind of quotes
(`exists_readQuoted`).
-/

namespace EntityScript

namespace Yaml

/-! ### What is written between quotes -/

/-- The word that a reader of quotes of a kind finds at the start of a text. -/
def quotedWord? (quote : Char) (s : List Char) : Option QuotedWord :=
  if quote = '\'' then some (singleQuotedWord 0 s) else doubleQuotedWord 0 s

/-- A word of a quoted scalar ends here: a separator follows, or the closing quote. -/
def EndsQuoted (quote : Char) : List Char → Prop
  | [] => False
  | c :: s => isSeparator c = true ∨ c = quote ∧ s.head? ≠ some quote

/-- A word is written this way, whatever follows its end. -/
def WritesWord (quote : Char) (w v : List Char) : Prop :=
  ∀ t, EndsQuoted quote t → quotedWord? quote (v ++ t) = some ⟨w, v.length, false⟩

/-- A text is written this way between quotes: words, with blanks or with line ends and the
indentation after them between two words. -/
inductive Writes (quote : Char) : List Char → List Char → Prop where
  | word {w v : List Char} (hw : WritesWord quote w v) : Writes quote w v
  | blanks {w v s u : List Char} (n : Nat) (hw : WritesWord quote w v) (hs : Writes quote s u)
    (hu : StartsWord u) : Writes quote (w ++ (spaces (n + 1) ++ s)) (v ++ (spaces (n + 1) ++ u))
  | breaks {w v s u bs : List Char} {b : Char} (n : Nat) (hw : WritesWord quote w v)
    (hs : Writes quote s u) (hu : StartsWord u) (hb : b ≠ '\n')
    (hbs : ∀ d ∈ b :: bs, isBreak d = true ∧ isPrintable d = true) :
    Writes quote (w ++ (b :: bs ++ s)) (v ++ (b :: bs ++ (spaces (n + 1) ++ u)))

/-! ### One step of the reader -/

section

variable {quote : Char} {fuel : Nat} {text w v t : List Char} {c : Cursor}

/-- After a word comes the closing quote, or a gap and the next word. -/
theorem readQuotedWithin_word (hw : WritesWord quote w v) (hrest : c.rest = v ++ t)
    (ht : EndsQuoted quote t) (hcolumn : 0 < c.column) :
    readQuotedWithin quote (fuel + 1) text c =
      if startsWith quote t then some (text ++ w, c.advance (v.length + 1))
      else (readGap 0 {} (c.advance v.length)).bind fun (g, c) =>
        readQuotedWithin quote fuel (text ++ w ++ g.text) c := by
  have hword := hw t ht
  have hempty : c.rest.isEmpty = false := by
    cases t with
    | nil => exact ht.elim
    | cons d t => simp [hrest]
  have hrest' : (c.advance v.length).rest = t := Cursor.rest_advance hrest
  rw [← hrest, quotedWord?] at hword
  rw [readQuotedWithin, Cursor.atDocumentMarker_of_column hcolumn, hempty]
  split at hword
  · next hsingle =>
    rw [Option.some.inj hword]
    simp [hsingle, hrest', Cursor.advance_advance]
  · next hsingle => simp [hsingle, hword, hrest', Cursor.advance_advance]

theorem readQuotedWithin_last (hw : WritesWord quote w v) (hrest : c.rest = v ++ quote :: t)
    (ht : t.head? ≠ some quote) (hcolumn : 0 < c.column) :
    readQuotedWithin quote (fuel + 1) text c = some (text ++ w, c.advance (v.length + 1)) := by
  rw [readQuotedWithin_word hw hrest (Or.inr ⟨rfl, ht⟩) hcolumn]
  exact if_pos (beq_self_eq_true _)

/-- A word before a separator is read with the gap that begins there; blanks and line ends are not
told apart yet. -/
theorem readQuotedWithin_gap {d : Char} {g : Gap} {c' : Cursor} (hw : WritesWord quote w v)
    (hrest : c.rest = v ++ d :: t) (hd : isSeparator d = true) (hquote : isSeparator quote = false)
    (hcolumn : 0 < c.column) (hgap : readGap 0 {} (c.advance v.length) = some (g, c')) :
    readQuotedWithin quote (fuel + 1) text c =
      readQuotedWithin quote fuel (text ++ w ++ g.text) c' := by
  have hne : startsWith quote (d :: t) = false := by
    refine beq_false_of_ne fun heq => ?_
    rw [Option.some.inj heq, hquote] at hd
    exact nomatch hd
  rw [readQuotedWithin_word hw hrest (Or.inl hd) hcolumn, hne, hgap]
  rfl

end

/-! ### Scalars -/

/-- What is written between quotes is read up to the closing one. -/
theorem exists_readQuotedWithin {quote : Char} {fuel : Nat} {text s u t : List Char} {c : Cursor}
    (h : Writes quote s u) (hrest : c.rest = u ++ quote :: t) (ht : t.head? ≠ some quote)
    (hquote : isSeparator quote = false) (hcolumn : 0 < c.column) (hfuel : u.length < fuel) :
    ∃ c' : Cursor, c'.rest = t ∧ readQuotedWithin quote fuel text c = some (text ++ s, c') := by
  have hstarts {u : List Char} (hu : StartsWord u) : StartsWord (u ++ quote :: t) := by
    cases u with
    | nil => exact startsWord_cons.mpr hquote
    | cons d u => exact hu
  -- Along the words: what is behind a word decides whether the reader ends or goes on.
  induction h generalizing fuel text c with
  | @word w v hw =>
    obtain ⟨fuel, rfl⟩ := Nat.exists_eq_add_one_of_ne_zero (Nat.ne_zero_of_lt hfuel)
    refine ⟨_, ?_, readQuotedWithin_last hw hrest ht hcolumn⟩
    have hrest' : c.rest = (v ++ [quote]) ++ t := by rw [hrest, List.append_assoc]; rfl
    have hadvance := Cursor.rest_advance hrest'
    rwa [List.length_append] at hadvance
  | @blanks w v s u n hw hs hu ih =>
    obtain ⟨fuel, rfl⟩ := Nat.exists_eq_add_one_of_ne_zero (Nat.ne_zero_of_lt hfuel)
    simp only [List.append_assoc] at hrest
    simp only [List.length_append, length_spaces] at hfuel
    have hgap := Cursor.rest_advance hrest
    have hrest' := Cursor.rest_advance_spaces hgap
    have hfuel' : u.length < fuel := by omega
    obtain ⟨c', ht', hread⟩ := ih hrest' (Nat.lt_add_left _ (Nat.succ_pos n)) hfuel'
    refine ⟨c', ht', ?_⟩
    rw [readQuotedWithin_gap hw hrest (by decide) hquote hcolumn (readGap_spaces hgap (hstarts hu)),
      hread]
    simp only [Gap.text, Bool.not_false, if_true, List.append_assoc]
  | @breaks w v s u bs b n hw hs hu hb hbs ih =>
    obtain ⟨fuel, rfl⟩ := Nat.exists_eq_add_one_of_ne_zero (Nat.ne_zero_of_lt hfuel)
    simp only [List.append_assoc] at hrest
    simp only [List.length_append, List.length_cons, length_spaces] at hfuel
    have hgap := Cursor.rest_advance hrest
    obtain ⟨c₁, hrest', hcolumn', hreadGap⟩ := exists_readGap_breaks hgap (hstarts hu) hbs
    have hfuel' : u.length < fuel := by omega
    obtain ⟨c', ht', hread⟩ := ih hrest' (hcolumn' ▸ Nat.succ_pos n) hfuel'
    have hseparator := isSeparator_of_isBreak (hbs b List.mem_cons_self).1
    refine ⟨c', ht', ?_⟩
    rw [readQuotedWithin_gap hw hrest hseparator hquote hcolumn hreadGap, hread]
    simp [Gap.text, hb]

/-- **What is written in quotes is read back**, whichever of the ways to write it was taken. -/
theorem exists_readQuoted {quote : Char} {s u t : List Char} {c : Cursor} (h : Writes quote s u)
    (hrest : c.rest = quote :: u ++ quote :: t) (ht : t.head? ≠ some quote)
    (hquote : isSeparator quote = false) :
    ∃ c' : Cursor, c'.rest = t ∧ readQuoted quote c = some (s, c') := by
  have hrest' : (c.advance 1).rest = u ++ quote :: t :=
    @Cursor.rest_advance c [quote] (u ++ quote :: t) hrest
  refine exists_readQuotedWithin h hrest' ht hquote (Nat.succ_pos _) ?_
  rw [hrest]
  simp only [List.length_append, List.length_cons]
  omega

/-! ### Double quotes -/

theorem hexDigitValue?_upperHexDigit (n : Nat) :
    hexDigitValue? (upperHexDigit n) = some (n % 16) := by
  have hdigits : ∀ k < 16, hexDigitValue? (Nat.digitChar k).toUpper = some k := by decide
  exact hdigits _ (Nat.mod_lt _ (by decide))

theorem length_upperHex (width n : Nat) : (upperHex width n).length = width := by
  induction width generalizing n with
  | zero => rfl
  | succ width ih => rw [upperHex, List.length_append, ih, List.length_singleton]

/-- The last digits of a number write what is left of it. -/
theorem hexValue?_upperHex (width n : Nat) :
    hexValue? (upperHex width n) = some (n % 16 ^ width) := by
  induction width generalizing n with
  | zero => simp [upperHex, hexValue?, Nat.mod_one]
  | succ width ih =>
    have hlast : n % 16 ^ (width + 1) = 16 * (n / 16 % 16 ^ width) + n % 16 := by
      rw [Nat.pow_succ, Nat.mul_comm, Nat.mod_mul, Nat.add_comm]
    have hfirst := ih (n / 16)
    rw [hexValue?] at hfirst
    rw [upperHex, hexValue?, List.foldl_append, hfirst, hlast]
    simp [hexDigitValue?_upperHexDigit]

theorem charOfCode?_toNat (c : Char) : charOfCode? c.toNat = some c := by
  have hvalid : c.toNat.isValidChar := c.valid
  rw [charOfCode?, if_pos hvalid, Char.ofNat_toNat]

/-- The letter of an escape gives the character back, and it does not announce digits. -/
theorem escapedChar?_of_escapeLetter? {c letter : Char} (h : escapeLetter? c = some letter) :
    escapeLength? letter = none ∧ escapedChar? letter = some c ∧ isBreak letter = false := by
  unfold escapeLetter? at h
  split at h
  case h_16 => cases h
  all_goals
    rename_i hcode
    obtain rfl := Option.some.inj h
    rw [← Char.ofNat_toNat c, hcode]
    decide

/-- The escape is read as the character, whatever follows it. -/
def IsEscapeOf (c : Char) (e : List Char) : Prop :=
  ∀ t, (e ++ t).head?.any isBreak = false ∧ readEscape? (e ++ t) = some (c, e.length)

/-- The digits of an escape give the character back. -/
theorem isEscapeOf_digits {c letter : Char} {width : Nat}
    (hletter : escapeLength? letter = some width) (hbreak : isBreak letter = false)
    (hc : c.toNat < 16 ^ width) : IsEscapeOf c (letter :: upperHex width c.toNat) := by
  refine fun t => ⟨by simpa using hbreak, ?_⟩
  have hdigits : (upperHex width c.toNat ++ t).take width = upperHex width c.toNat :=
    List.take_left' (length_upperHex width c.toNat)
  simp [readEscape?, hletter, hdigits, length_upperHex, hexValue?_upperHex, Nat.mod_eq_of_lt hc,
    charOfCode?_toNat]

/-- **Every character is given back by its escape**, be it a letter or one of the three kinds of
digits. -/
theorem exists_escapeOf_eq (c : Char) : ∃ e, escapeOf c = '\\' :: e ∧ IsEscapeOf c e := by
  rw [escapeOf]
  split
  · next letter hletter =>
    obtain ⟨hlength, hchar, hbreak⟩ := escapedChar?_of_escapeLetter? hletter
    refine ⟨[letter], rfl, fun t => ⟨by simpa using hbreak, ?_⟩⟩
    simp [readEscape?, hlength, hchar]
  · have hcode : c.toNat < 16 ^ 8 := c.val.toNat_lt
    dsimp only
    split
    · exact ⟨_, rfl, isEscapeOf_digits (by decide) (by decide) (by omega)⟩
    · split
      · exact ⟨_, rfl, isEscapeOf_digits (by decide) (by decide) (by omega)⟩
      · exact ⟨_, rfl, isEscapeOf_digits (by decide) (by decide) hcode⟩

theorem doubleQuotedWord_append (e t : List Char) :
    doubleQuotedWord e.length (e ++ t) = doubleQuotedWord 0 t := by
  induction e with
  | nil => rfl
  | cons c e ih => rw [List.length_cons, List.cons_append, doubleQuotedWord, ih]

/-- A character other than a space stands for itself or is escaped. -/
theorem doubleQuotedChar_cases {c : Char} (hc : c ≠ ' ') :
    (∃ e, doubleQuotedChar c = '\\' :: e ∧ IsEscapeOf c e) ∨
      doubleQuotedChar c = [c] ∧ isSeparator c = false ∧ c ≠ '"' ∧ c ≠ '\\' := by
  rw [doubleQuotedChar]
  split
  · exact Or.inl (exists_escapeOf_eq c)
  · next hplain =>
    simp only [Bool.or_eq_true, Bool.not_eq_true', beq_iff_eq, not_or, Bool.not_eq_false,
      Bool.not_eq_true] at hplain
    obtain ⟨⟨⟨hprintable, hbreak⟩, hquote⟩, hslash⟩ := hplain
    refine Or.inr ⟨rfl, Bool.eq_false_iff.mpr fun h => ?_, hquote, hslash⟩
    exact hc (eq_space_of_isPrintable h hprintable hbreak)

/-- A character other than a space is read as part of a word. -/
theorem doubleQuotedWord_char {c : Char} (hc : c ≠ ' ') (t : List Char) :
    doubleQuotedWord 0 (doubleQuotedChar c ++ t) =
      (doubleQuotedWord 0 t).map (·.cons c (doubleQuotedChar c).length) := by
  rcases doubleQuotedChar_cases hc with ⟨e, he, hescape⟩ | ⟨he, hseparator, hquote, hslash⟩
  · obtain ⟨hbreak, hread⟩ := hescape t
    have hslash : isSeparator '\\' = false := by decide
    rw [he, List.cons_append, doubleQuotedWord, hslash, hbreak, hread]
    simp only [Bool.false_or, Bool.false_eq_true, if_false, Option.bind_eq_bind,
      Option.bind_some, doubleQuotedWord_append, List.length_cons]
    cases doubleQuotedWord 0 t <;> rfl
  · simp [he, doubleQuotedWord, hseparator, hquote, hslash]

/-- A word without spaces is written character by character. -/
theorem writesWord_doubleQuoted {w : List Char} (hw : ∀ c ∈ w, c ≠ ' ') :
    WritesWord '"' w (w.flatMap doubleQuotedChar) := by
  intro t ht
  rw [quotedWord?, if_neg (by decide)]
  induction w with
  | nil =>
    cases t with
    | nil => exact ht.elim
    | cons d t =>
      rcases ht with hd | ⟨rfl, -⟩
      · simp [doubleQuotedWord, hd]
      · simp [doubleQuotedWord]
  | cons c w ih =>
    obtain ⟨hc, hrest⟩ := List.forall_mem_cons.mp hw
    rw [List.flatMap_cons, List.append_assoc, doubleQuotedWord_char hc, ih hrest,
      List.length_append]
    rfl

/-- What is written of a word starts a word. -/
theorem startsWord_doubleQuoted {s : List Char} (hs : ∀ c ∈ s.head?, c ≠ ' ') :
    StartsWord (s.flatMap doubleQuotedChar) := by
  cases s with
  | nil => exact startsWord_nil
  | cons c s =>
    rw [List.flatMap_cons]
    rcases doubleQuotedChar_cases (hs c rfl) with ⟨e, he, -⟩ | ⟨he, hseparator, -⟩
    · rw [he]
      exact startsWord_cons.mpr (by decide)
    · rw [he]
      exact startsWord_cons.mpr hseparator

/-- **Every text can be written in double quotes.** The induction is on its length, over one run of
blanks and one word at a time. -/
theorem writes_doubleQuoted (s : List Char) : Writes '"' s (s.flatMap doubleQuotedChar) := by
  induction hlength : s.length using Nat.strong_induction_on generalizing s with
  | _ length ih =>
    obtain ⟨w, g, u, rfl, hw, hg, hu, hend⟩ := exists_run_eq isSpace s
    have hword := writesWord_doubleQuoted fun c hc => ne_of_beq_false (hw c hc)
    have hspaces : g = spaces g.length := List.eq_replicate_of_mem fun c hc => eq_of_beq (hg c hc)
    cases g with
    | nil =>
      rw [hend rfl, List.append_nil, List.append_nil]
      exact .word hword
    | cons c g =>
      have hgap : (spaces (c :: g).length).flatMap doubleQuotedChar = spaces (c :: g).length := by
        have hspace : doubleQuotedChar ' ' = [' '] := by decide
        rw [spaces, List.flatMap_replicate, hspace, List.flatten_replicate_singleton]
      rw [hspaces, List.flatMap_append, List.flatMap_append, hgap]
      refine .blanks _ hword (ih u.length ?_ u rfl)
        (startsWord_doubleQuoted fun d hd => ne_of_beq_false (hu d hd))
      simp only [← hlength, List.length_append, List.length_cons]
      omega

/-! ### Single quotes -/

/-- Within a line only quotes are written in another way. -/
theorem singleQuotedBody_line (indent : Nat) {w t : List Char} (hw : ∀ c ∈ w, isBreak c = false) :
    singleQuotedBody indent false (w ++ t) =
      singleQuotedBody indent false w ++ singleQuotedBody indent false t := by
  induction w with
  | nil => rfl
  | cons c w ih =>
    obtain ⟨hc, hrest⟩ := List.forall_mem_cons.mp hw
    simp [singleQuotedBody, hc, ih hrest]

/-- Blanks within a line are written as they are. -/
theorem singleQuotedBody_spaces (indent n : Nat) :
    singleQuotedBody indent false (spaces n) = spaces n := by
  have hspace : isBreak ' ' = false := by decide
  induction n with
  | zero => rfl
  | succ n ih =>
    rw [spaces] at ih
    simp [spaces, List.replicate_succ, singleQuotedBody, hspace, ih]

/-- Line ends are written as they are, and the line after them is indented. -/
theorem singleQuotedBody_breaks (indent : Nat) {bs t : List Char}
    (hbs : ∀ b ∈ bs, isBreak b = true) (ht : StartsWord t) :
    singleQuotedBody indent true (bs ++ t) =
      bs ++ (spaces indent ++ singleQuotedBody indent false t) := by
  induction bs with
  | nil =>
    cases t with
    | nil => simp [singleQuotedBody]
    | cons c t =>
      have hc := isBreak_of_isSeparator_eq_false (startsWord_cons.mp ht)
      simp [singleQuotedBody, hc]
  | cons b bs ih =>
    obtain ⟨hb, hrest⟩ := List.forall_mem_cons.mp hbs
    simp [singleQuotedBody, hb, ih hrest]

/-- A word is written with its quotes doubled. -/
theorem writesWord_singleQuoted (indent : Nat) {w : List Char}
    (hw : ∀ c ∈ w, isSeparator c = false) :
    WritesWord '\'' w (singleQuotedBody indent false w) := by
  intro t ht
  rw [quotedWord?, if_pos rfl]
  have hseparator : isSeparator '\'' = false := by decide
  induction w with
  | nil =>
    cases t with
    | nil => exact ht.elim
    | cons d t =>
      rcases ht with hd | ⟨rfl, hd⟩
      · simp [singleQuotedBody, singleQuotedWord, hd]
      · have hquote : startsWith '\'' t = false := beq_false_of_ne hd
        simp [singleQuotedBody, singleQuotedWord, hquote]
  | cons c w ih =>
    obtain ⟨hc, hrest⟩ := List.forall_mem_cons.mp hw
    have hword := Option.some.inj (ih hrest)
    have hbreak := isBreak_of_isSeparator_eq_false hc
    by_cases hquote : c = '\''
    · subst hquote
      -- The writer doubles a quote and the reader takes the pair for one character.
      simp [singleQuotedBody, hbreak, singleQuotedWord, hc, startsWith, hword, QuotedWord.cons]
      omega
    · simp [singleQuotedBody, hbreak, singleQuotedWord, hc, hquote, hword, QuotedWord.cons,
        Nat.add_comm]

/-- What is written of a word in single quotes starts a word. -/
theorem startsWord_singleQuoted (indent : Nat) {s : List Char} (hs : StartsWord s) :
    StartsWord (singleQuotedBody indent false s) := by
  cases s with
  | nil => exact startsWord_nil
  | cons c s =>
    have hc := startsWord_cons.mp hs
    have hbreak := isBreak_of_isSeparator_eq_false hc
    by_cases hquote : c = '\''
    · subst hquote
      simp [singleQuotedBody, hbreak, startsWord_cons, hc]
    · simp [singleQuotedBody, hbreak, hquote, startsWord_cons, hc]

/-! ### Texts in single quotes -/

/-- No character of the first kind stands right before one of the second kind. -/
theorem hasPair_eq_false_iff {p q : Char → Bool} {s : List Char} :
    hasPair p q s = false ↔ s.IsChain fun c d => ¬ (p c = true ∧ q d = true) := by
  induction s with
  | nil => simp [hasPair]
  | cons c s ih =>
    cases s with
    | nil => simp [hasPair]
    | cons d s => simp [hasPair, ih, List.isChain_cons_cons]

theorem hasPair_of_isInfix {p q : Char → Bool} {s t : List Char} (h : hasPair p q t = false)
    (hst : s <:+: t) : hasPair p q s = false := by
  obtain ⟨a, b, rfl⟩ := hst
  exact hasPair_eq_false_iff.mpr (hasPair_eq_false_iff.mp h).left_of_append.right_of_append

/-- A text that may be written in single quotes. -/
structure IsSingleQuoted (s : List Char) : Prop where
  printable : ∀ c ∈ s, isPrintable c = true
  ne_feed : ∀ c ∈ s, c ≠ '\n'
  /-- There are no spaces beside line ends. -/
  space_break : hasPair isSpace isBreak s = false
  break_space : hasPair isBreak isSpace s = false

/-- A part of a text that may be written in single quotes may be so by itself. -/
theorem IsSingleQuoted.of_isInfix {s t : List Char} (h : IsSingleQuoted t) (hst : s <:+: t) :
    IsSingleQuoted s :=
  ⟨fun c hc => h.printable c (hst.subset hc), fun c hc => h.ne_feed c (hst.subset hc),
    hasPair_of_isInfix h.space_break hst, hasPair_of_isInfix h.break_space hst⟩

/-- A run of separators in it consists of spaces or of line ends. Mixed runs would not be read
back. -/
theorem IsSingleQuoted.spaces_or_breaks {g : List Char} (h : IsSingleQuoted g)
    (hg : ∀ c ∈ g, isSeparator c = true) : (∀ c ∈ g, c = ' ') ∨ ∀ c ∈ g, isBreak c = true := by
  induction g with
  | nil => exact Or.inl fun _ hc => absurd hc List.not_mem_nil
  | cons c g ih =>
    obtain ⟨hc, hrest⟩ := List.forall_mem_cons.mp hg
    have hspace : isBreak c = true ∨ c = ' ' := by
      by_cases hbreak : isBreak c = true
      · exact Or.inl hbreak
      · exact Or.inr (eq_space_of_isPrintable hc (h.printable c List.mem_cons_self)
          (Bool.eq_false_iff.mpr hbreak))
    cases g with
    | nil => simpa [or_comm] using hspace
    | cons d g =>
      have hbefore := (Bool.or_eq_false_iff.mp h.space_break).1
      have hafter := (Bool.or_eq_false_iff.mp h.break_space).1
      rcases ih (h.of_isInfix (List.suffix_cons c _).isInfix) hrest with hspaces | hbreaks
      · have hd : isSpace d = true := beq_iff_eq.mpr (hspaces d List.mem_cons_self)
        rw [hd, Bool.and_true] at hafter
        exact Or.inl (List.forall_mem_cons.mpr
          ⟨hspace.resolve_left (Bool.eq_false_iff.mp hafter), hspaces⟩)
      · rw [hbreaks d List.mem_cons_self, Bool.and_true] at hbefore
        exact Or.inr (List.forall_mem_cons.mpr
          ⟨hspace.resolve_right (ne_of_beq_false hbefore), hbreaks⟩)

/-- **A text without a line feed, and without spaces beside line ends,** can be written in single
quotes. -/
theorem writes_singleQuoted (n : Nat) {s : List Char} (h : IsSingleQuoted s) :
    Writes '\'' s (singleQuotedBody (n + 1) false s) := by
  -- The text is read word by word and gap by gap, so the induction is on its length.
  induction hlength : s.length using Nat.strong_induction_on generalizing s with
  | _ length ih =>
    obtain ⟨w, g, u, rfl, hw, hg, hu, hend⟩ := exists_run_eq isSeparator s
    have hword := writesWord_singleQuoted (n + 1) hw
    have hline : ∀ c ∈ w, isBreak c = false := fun c hc => isBreak_of_isSeparator_eq_false (hw c hc)
    rw [singleQuotedBody_line _ hline]
    cases g with
    | nil =>
      rw [hend rfl, List.append_nil, List.append_nil, singleQuotedBody, if_neg Bool.false_ne_true,
        List.append_nil]
      exact .word hword
    | cons c g =>
      have hgap : IsSingleQuoted (c :: g) := h.of_isInfix ⟨w, u, List.append_assoc _ _ _⟩
      have hrest : Writes '\'' u (singleQuotedBody (n + 1) false u) := by
        refine ih u.length ?_ (h.of_isInfix ?_) rfl
        · simp only [← hlength, List.length_append, List.length_cons]
          omega
        · exact ⟨w ++ c :: g, [], by simp⟩
      have hstart := startsWord_singleQuoted (n + 1) hu
      rcases hgap.spaces_or_breaks hg with hspaces | hbreaks
      · have hrun : c :: g = spaces (g.length + 1) := List.eq_replicate_of_mem hspaces
        have hblanks : ∀ d ∈ c :: g, isBreak d = false := fun d hd => by
          rw [hspaces d hd]
          decide
        rw [singleQuotedBody_line _ hblanks, hrun, singleQuotedBody_spaces]
        exact .blanks _ hword hrest hstart
      · have hfeed : c ≠ '\n' := hgap.ne_feed c List.mem_cons_self
        obtain ⟨hc, hmore⟩ := List.forall_mem_cons.mp hbreaks
        have hbody : singleQuotedBody (n + 1) false (c :: g ++ u) =
            c :: g ++ (spaces (n + 1) ++ singleQuotedBody (n + 1) false u) := by
          simp [singleQuotedBody, hc, hfeed, singleQuotedBody_breaks _ hmore hu]
        rw [hbody]
        exact .breaks n hword hrest hstart hfeed fun d hd =>
          ⟨hbreaks d hd, hgap.printable d hd⟩

end Yaml

end EntityScript
