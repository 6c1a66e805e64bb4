import EntityScript.Proofs.Markup.Nesting
import EntityScript.Proofs.Markup.Reading

/-!
# Reading inside a larger document

What the reader makes of a text does not depend on what is around it. A piece of markup is decided
by the characters that it takes: whatever follows these, and whatever elements are open further out,
the same event is read (`markupPiece_append`). So a text that is read to its end is read as the same
events in front of any markup and inside any elements (`exists_reads_append`). The elements that are
open behind it are settled by its events (`Reads.opened_eq`), and are those open before if the
events are nested (`Nested.foldl_openedAfter`).

**Main statement**: two tags around a text whose events are nested add themselves to these events
and change nothing else (`read_between_tags`).
-/

namespace EntityScript

namespace Markup

/-! ### One piece of markup -/

section

variable {s content rest : List Char}

/-- The first `>` that ends markup stays the first one in front of more text, as what stands before
it is the same. -/
theorem splitAtAngle_append_of_some {ends : List Char → Bool} {before : List Char}
    (h : splitAtAngle ends before s = some (content, rest)) :
    rest.length < s.length ∧
      ∀ t, splitAtAngle ends before (s ++ t) = some (content, rest ++ t) := by
  induction s generalizing before with
  | nil => cases h
  | cons c s ih =>
    rw [splitAtAngle] at h
    split at h
    · next hend =>
      obtain ⟨rfl, rfl⟩ := Prod.mk.inj (Option.some.inj h)
      refine ⟨Nat.lt_succ_self _, fun t => ?_⟩
      rw [List.cons_append, splitAtAngle, if_pos hend]
    · next hend =>
      obtain ⟨hlength, happend⟩ := ih h
      refine ⟨Nat.lt_succ_of_lt hlength, fun t => ?_⟩
      rw [List.cons_append, splitAtAngle, if_neg hend, happend]

/-- The first `>` outside quotes stays the first one in front of more text. The quote that is open
is generalised, as it changes from one character to the next. -/
theorem splitTag_append_of_some {quote : Option Char} {before : List Char}
    (h : splitTag quote before s = some (content, rest)) :
    rest.length < s.length ∧ ∀ t, splitTag quote before (s ++ t) = some (content, rest ++ t) := by
  induction s generalizing quote before with
  | nil => cases h
  | cons c s ih =>
    cases quote with
    | some q =>
      -- Inside a quoted value a closing bracket ends nothing, and what follows is the same search.
      obtain ⟨hlength, happend⟩ := ih h
      exact ⟨Nat.lt_succ_of_lt hlength, happend⟩
    | none =>
      simp only [splitTag] at h
      split at h
      · next hend =>
        obtain ⟨rfl, rfl⟩ := Prod.mk.inj (Option.some.inj h)
        refine ⟨Nat.lt_succ_self _, fun t => ?_⟩
        simp only [List.cons_append, splitTag, if_pos hend]
      · next hend =>
        obtain ⟨hlength, happend⟩ := ih h
        refine ⟨Nat.lt_succ_of_lt hlength, fun t => ?_⟩
        simp only [List.cons_append, splitTag, if_neg hend, happend]

end

section

variable {s rest : List Char} {e : Event} {opened : List String}

/-- The first two characters decide which mark ends the markup, and what stands before that mark
decides what it is read as. -/
theorem exists_end_of_bangPiece (h : bangPiece s = .event e rest) :
    ∃ d tail ends content, s = '!' :: d :: tail ∧
      splitAtAngle ends [] s = some (content, rest) ∧
      ∀ tail' rest', splitAtAngle ends [] ('!' :: d :: tail') = some (content, rest') →
        bangPiece ('!' :: d :: tail') = .event e rest' := by
  unfold bangPiece at h
  split at h
  · -- A comment, a section of character data and a document type are each found by their own end,
    -- and only what stands before that end decides how the piece is read.
    split at h
    · cases h
    next content rest' hsplit =>
    split at h
    · next hstart =>
      cases h
      refine ⟨_, _, _, content, rfl, hsplit, fun tail' rest' hsplit' => ?_⟩
      simp only [bangPiece, hsplit', hstart, if_true]
    · cases h
  · split at h
    · cases h
    next content rest' hsplit =>
    split at h
    · next hstart =>
      cases h
      refine ⟨_, _, _, content, rfl, hsplit, fun tail' rest' hsplit' => ?_⟩
      simp only [bangPiece, hsplit', hstart, if_true]
    · cases h
  · split at h
    · next hd =>
      split at h
      · cases h
      next content rest' hsplit =>
      split at h
      · next hstart =>
        split at h
        · cases h
        next hname =>
        cases h
        refine ⟨_, _, _, content, rfl, hsplit, fun tail' rest' hsplit' => ?_⟩
        simp only [bangPiece, hd, hsplit', hstart, hname, if_true, Bool.false_eq_true, if_false]
      · cases h
    · cases h
  · cases h

/-- Comments, sections and declarations are read alike in front of any text. The first `>` with the
right marks before it is the same in both texts. -/
theorem bangPiece_append (h : bangPiece s = .event e rest) :
    rest.length < s.length ∧ ∀ t, bangPiece (s ++ t) = .event e (rest ++ t) := by
  obtain ⟨d, tail, ends, content, rfl, hsplit, hpiece⟩ := exists_end_of_bangPiece h
  obtain ⟨hlength, happend⟩ := splitAtAngle_append_of_some hsplit
  exact ⟨hlength, fun t => hpiece _ _ (happend t)⟩

/-- An instruction is read alike in front of any text. It ends at the first mark for that. -/
theorem instructionPiece_append (h : instructionPiece s = .event e rest) :
    rest.length < s.length ∧ ∀ t, instructionPiece (s ++ t) = .event e (rest ++ t) := by
  unfold instructionPiece at h
  split at h
  · cases h
  next content rest' hsplit =>
  obtain ⟨hlength, happend⟩ := splitAtAngle_append_of_some hsplit
  split at h
  · next hcontent =>
    cases h
    refine ⟨hlength, fun t => ?_⟩
    simp only [instructionPiece, happend, if_pos hcontent]
  · cases h

/-- An opening tag is read alike in front of any text, with or without content. Quoted parts of a
tag may hold a `>`, which does not end it in either text. -/
theorem openingPiece_append (h : openingPiece s = .event e rest) :
    rest.length < s.length ∧ ∀ t, openingPiece (s ++ t) = .event e (rest ++ t) := by
  unfold openingPiece at h
  split at h
  · cases h
  next content rest' hsplit =>
  obtain ⟨hlength, happend⟩ := splitTag_append_of_some hsplit
  split at h
  all_goals
    next hslash =>
    cases h
    refine ⟨hlength, fun t => ?_⟩
    simp only [openingPiece, happend, hslash, if_true, if_false]

/-- A closing tag that fits the innermost open element fits it inside further elements. Only the
innermost one is looked at. -/
theorem closingPiece_append (h : closingPiece opened s = .event e rest) :
    rest.length < s.length ∧
      ∀ outer t, closingPiece (opened ++ outer) (s ++ t) = .event e (rest ++ t) := by
  unfold closingPiece at h
  split at h
  · cases h
  next content rest' hsplit =>
  obtain ⟨hlength, happend⟩ := splitTag_append_of_some hsplit
  cases opened with
  | nil => cases h
  | cons expected opened =>
    simp only at h
    split at h
    · next hname =>
      cases h
      refine ⟨hlength, fun outer t => ?_⟩
      simp only [closingPiece, happend, List.cons_append, if_pos hname]
    · cases h

/-- **A piece of markup is read alike everywhere**: in front of any text and inside any elements. Of
the elements only the innermost one is asked for, and only by a closing tag. -/
theorem markupPiece_append (h : markupPiece opened s = .event e rest) :
    rest.length < s.length ∧
      ∀ outer t, markupPiece (opened ++ outer) (s ++ t) = .event e (rest ++ t) := by
  unfold markupPiece at h
  split at h
  · cases h
  · obtain ⟨hlength, happend⟩ := bangPiece_append h
    exact ⟨hlength, fun _ => happend⟩
  · exact closingPiece_append h
  · obtain ⟨hlength, happend⟩ := instructionPiece_append h
    exact ⟨hlength, fun _ => happend⟩
  · next hnil hbang hslash hquestion =>
    obtain ⟨hlength, happend⟩ := openingPiece_append h
    refine ⟨hlength, fun outer t => ?_⟩
    rw [← happend t]
    cases s with
    | nil => exact absurd rfl hnil
    | cons c s =>
      -- The first character is none of those that start other markup.
      unfold markupPiece
      split
      · next heq => cases heq
      · next heq => exact absurd (List.cons.inj heq).1 fun hc => hbang s (hc ▸ rfl)
      · next heq => exact absurd (List.cons.inj heq).1 fun hc => hslash s (hc ▸ rfl)
      · next heq => exact absurd (List.cons.inj heq).1 fun hc => hquestion s (hc ▸ rfl)
      · rfl

end

/-! ### Texts that are read to their end -/

/-- What is open further out is still open after an event, provided that an end tag closes the
innermost element. -/
theorem openedAfter_append {opened : List String} {e : Event}
    (h : ∀ name, e = .stop name → opened.head? = some name) (outer : List String) :
    openedAfter (opened ++ outer) e = openedAfter opened e ++ outer := by
  cases e with
  | stop name =>
    cases opened with
    | nil => cases h name rfl
    | cons _ opened => rfl
  | start name | empty name | text raw | data s | aside => rfl

/-- What follows a text up to its first `<` is nothing, or markup. So a text does not grow by what
stands behind it. -/
theorem isTextEnd_dropWhile_append (s : List Char) {t : List Char} (ht : IsTextEnd t) :
    IsTextEnd (s.dropWhile (· != '<') ++ t) := by
  cases hrest : s.dropWhile (· != '<') with
  | nil => exact ht
  | cons c rest =>
    have hhead := List.head?_dropWhile_not (· != '<') s
    rw [hrest, List.head?_cons] at hhead
    intro d hd
    obtain rfl := Option.some.inj hd
    exact bne_eq_false_iff_eq.mp hhead

/-- A piece of markup that is read is what the reader takes next. -/
theorem isNext_of_markupPiece {opened : List String} {s rest : List Char} {e : Event}
    (h : markupPiece opened s = .event e rest) : IsNext opened ('<' :: s) e rest := by
  refine ⟨Nat.lt_succ_of_lt (markupPiece_append h).1, fun fuel offset =>
    ⟨offset + (1 + (Text.byteLength s - Text.byteLength rest)), ?_⟩⟩
  rw [readWithin, h]

/-- **A text that is read to its end** is read as the same events in front of more markup and inside
further elements. The induction is on the fuel, of which every event takes one unit. -/
theorem exists_reads_append {fuel : Nat} {opened : List String} {offset : Nat} {s : List Char}
    (hfuel : s.length < fuel) (h : (readWithin fuel opened offset s).ending = .complete)
    (outer : List String) {t : List Char} (ht : IsTextEnd t) :
    ∃ opened', Reads (opened ++ outer) (s ++ t) (readWithin fuel opened offset s).events
      opened' t := by
  fun_induction readWithin fuel opened offset s with
  | case1 => exact absurd hfuel (Nat.not_lt_zero _)
  | case2 => exact ⟨_, .nil⟩
  | case3 => cases h
  | case4 fuel opened offset s e rest hpiece taken later ih =>
    obtain ⟨hlength, happend⟩ := markupPiece_append hpiece
    rw [List.length_cons] at hfuel
    obtain ⟨opened', hreads⟩ := ih (by omega) h
    have hstop : ∀ name, e = .stop name → opened.head? = some name := by
      rintro name rfl
      exact head?_of_markupPiece hpiece
    rw [← openedAfter_append hstop outer] at hreads
    exact ⟨opened', .cons (isNext_of_markupPiece (happend outer t)) hreads⟩
  | case5 fuel opened offset s hne hlt raw later ih =>
    -- The text is not empty, as `s` is not and does not start with markup.
    have hs : raw ++ s.dropWhile (· != '<') = s := List.takeWhile_append_dropWhile
    have hraw : raw ≠ [] := by
      obtain ⟨c, t, rfl⟩ := List.exists_cons_of_ne_nil hne
      have hc : (c != '<') = true := bne_iff_ne.mpr fun heq => hlt t (heq ▸ rfl)
      exact List.ne_nil_of_length_pos (by simp only [raw, List.takeWhile_cons, hc, if_true,
        List.length_cons, Nat.zero_lt_succ])
    have hmem : '<' ∉ raw := fun hmem =>
      absurd (List.all_eq_true.mp List.all_takeWhile '<' hmem) (by decide)
    have hlength : (s.dropWhile (· != '<')).length < s.length := by
      have := congrArg List.length hs
      have := List.length_pos_iff.mpr hraw
      rw [List.length_append] at *
      omega
    obtain ⟨opened', hreads⟩ := ih (by omega) h
    have hnext := isNext_text hraw hmem (isTextEnd_dropWhile_append s ht) (opened ++ outer)
    rw [← List.append_assoc, hs] at hnext
    exact ⟨opened', .cons hnext hreads⟩

/-! ### Nested events -/

/-- The elements that are open after a run are those that its events leave open. So they can be told
without the text. -/
theorem Reads.opened_eq {opened opened' : List String} {s s' : List Char} {es : List Event}
    (h : Reads opened s es opened' s') : opened' = es.foldl openedAfter opened := by
  induction h with
  | nil => rfl
  | cons _ _ ih => exact ih

/-- Nested events close all elements that they open, and no others. The induction is on the nesting,
and the elements around it are arbitrary. -/
theorem Nested.foldl_openedAfter {es : List Event} (h : Nested es) (opened : List String) :
    es.foldl openedAfter opened = opened := by
  induction h generalizing opened with
  | nil => rfl
  | @cons e es he _ ih =>
    have hopened : openedAfter opened e = opened := by
      cases e with
      | start name | stop name => cases he
      | empty name | text raw | data s | aside => rfl
    rw [List.foldl_cons, hopened, ih]
  | @element name inside es _ _ ihinside ih =>
    rw [List.foldl_cons, List.foldl_append, ihinside, List.foldl_cons]
    exact ih opened

/-- A text without a byte-order mark is read from its first character, with fuel for each one. With
a mark it would be read from the second one. -/
theorem read_eq_readWithin {s : String} (hmark : s.toList.head? ≠ some '\ufeff') :
    read s = readWithin (s.toList.length + 1) [] 0 s.toList := by
  rw [read]
  split
  · next heq => exact absurd (by rw [heq]; rfl) hmark
  · rfl

/-- **Two tags around a text** whose events are nested add themselves to these and change nothing
else. -/
theorem read_between_tags {s : String} (hmark : s.toList.head? ≠ some '\ufeff')
    (hcomplete : (read s).ending = .complete) (hnested : Nested (read s).events) {tag : Tag}
    (htag : tag.WellFormed) {gap : List Char} (hgap : IsGap gap) :
    read (String.ofList (enclose "<" tag.write ">" ++
        (s.toList ++ enclose "</" (tag.name.toList ++ gap) ">"))) =
      ⟨.start tag.name :: ((read s).events ++ [.stop tag.name]), .complete⟩ := by
  rw [read_eq_readWithin hmark] at hcomplete hnested ⊢
  -- Behind the text only the element around it is open.
  obtain ⟨opened, hinside⟩ := exists_reads_append (Nat.lt_succ_self _) hcomplete [tag.name]
    (Item.isTextEnd_enclose (tag.name.toList ++ gap) ">" [])
  obtain rfl : opened = [tag.name] := hinside.opened_eq.trans (hnested.foldl_openedAfter _)
  have hstop := Item.isNext_stop [] [] htag.name hgap
  have hreads := Reads.cons (Item.isNext_start [] _ htag) (hinside.append (.of_isNext hstop))
  rw [List.append_nil] at hreads
  have hstart : (String.ofList (enclose "<" tag.write ">" ++
      (s.toList ++ enclose "</" (tag.name.toList ++ gap) ">"))).toList.head? ≠ some '\ufeff' := by
    rw [String.toList_ofList]
    exact fun heq => absurd (show '<' = '\ufeff' from Option.some.inj heq) (by decide)
  rw [read_eq_readWithin hstart, String.toList_ofList]
  exact hreads.readWithin_eq (Nat.lt_succ_self _) 0

end Markup

end EntityScript
