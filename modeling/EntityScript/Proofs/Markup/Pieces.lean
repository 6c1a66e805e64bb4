import EntityScript.Proofs.Markup.Writing

/-!
# Pieces of markup

What the reader makes of one written piece of markup, whatever follows it: character data
(`markupPiece_data`), comments, instructions, and the tags of elements (`markupPiece_start` and its
siblings).

The first three end at the first `>` with the right marks before it, so it has to be shown that
there is none inside. A tag ends at the first `>` that is not quoted: its text is *balanced*
(`IsBalanced`), and texts that are balanced stay so when they are joined.
-/

namespace EntityScript

namespace Markup

/-! ### Ends of markup -/

section

variable {ends : List Char → Bool} {before s rest : List Char}

/-- A text is passed over if no `>` in it ends the markup. What is before is kept in reverse, as the
marks of an end are looked for there. -/
theorem splitAtAngle_append (h : ∀ u v, s = u ++ '>' :: v → ends (u.reverse ++ before) = false) :
    splitAtAngle ends before (s ++ rest) = splitAtAngle ends (s.reverse ++ before) rest := by
  induction s generalizing before with
  | nil => rfl
  | cons c s ih =>
    have hc : (decide (c = '>') && ends before) = false := by
      by_cases hangle : c = '>'
      · have hends : ends before = false := h [] s (by rw [hangle, List.nil_append])
        rw [hends, Bool.and_false]
      · rw [decide_eq_false hangle, Bool.false_and]
    have hinside : ∀ u v, s = u ++ '>' :: v → ends (u.reverse ++ c :: before) = false := by
      intro u v huv
      have := h (c :: u) v (by rw [huv, List.cons_append])
      rwa [List.reverse_cons, List.append_assoc] at this
    rw [List.cons_append, splitAtAngle, hc, if_neg Bool.false_ne_true, ih hinside,
      List.reverse_cons, List.append_assoc]
    rfl

theorem splitAtAngle_of_not_mem (h : '>' ∉ s) :
    splitAtAngle ends before (s ++ rest) = splitAtAngle ends (s.reverse ++ before) rest :=
  splitAtAngle_append fun _ _ heq =>
    absurd (heq ▸ List.mem_append_right _ List.mem_cons_self) h

theorem splitAtAngle_end (h : ends before = true) :
    splitAtAngle ends before ('>' :: rest) = some (before.reverse, rest) := by
  rw [splitAtAngle, h, Bool.and_true, if_pos (decide_eq_true rfl)]

/-- Markup ends after its closing marks if it does not end inside. The three kinds below are cases
of it, each with its own marks. -/
theorem splitAtAngle_section {opening : List Char} (closing rest : List Char)
    (hopening : '>' ∉ opening) (hclosing : '>' ∉ closing)
    (hinside : ∀ u v, s = u ++ '>' :: v → ends (u.reverse ++ opening.reverse) = false)
    (hend : ends (closing.reverse ++ (s.reverse ++ opening.reverse)) = true) :
    splitAtAngle ends [] (opening ++ (s ++ (closing ++ '>' :: rest))) =
      some (opening ++ (s ++ closing), rest) := by
  have hopened : splitAtAngle ends [] (opening ++ (s ++ (closing ++ '>' :: rest))) =
      splitAtAngle ends opening.reverse (s ++ (closing ++ '>' :: rest)) := by
    rw [splitAtAngle_of_not_mem hopening, List.append_nil]
  rw [hopened, splitAtAngle_append hinside, splitAtAngle_of_not_mem hclosing,
    splitAtAngle_end hend]
  simp only [List.reverse_append, List.reverse_reverse, List.append_assoc]

end

/-- What stands before a `>` of a text is in it together with the `>`. Marks are compared in
reverse, as the reader keeps what it has passed in that order. -/
theorem infix_of_reverse_eq {p u v w : List Char} (h : u.reverse = p.reverse ++ w) :
    p ++ ['>'] <:+: u ++ '>' :: v := by
  have hu : u = w.reverse ++ p := by
    rw [← List.reverse_reverse u, h, List.reverse_append, List.reverse_reverse]
  exact ⟨w.reverse, v, by simp only [hu, List.append_assoc, List.singleton_append]⟩

/-! ### Pieces of markup -/

section

variable {opened : List String} {s rest : List Char}

/-- **Character data** is read as it is written, if the mark of its end is not in it. References are
not resolved in it. -/
theorem markupPiece_data (h : ¬ "]]>".toList <:+: s) :
    markupPiece opened ("![CDATA[".toList ++ (s ++ ("]]".toList ++ '>' :: rest))) =
      .event (.data (String.ofList s)) rest := by
  have hinside : ∀ u v, s = u ++ '>' :: v →
      endsData (u.reverse ++ "![CDATA[".toList.reverse) = false := by
    rintro u v rfl
    refine Bool.eq_false_iff.mpr fun hends => h ?_
    -- The opening bracket of the start is none of the two, so both are in the text.
    rcases hu : u.reverse with _ | ⟨x, _ | ⟨y, w⟩⟩ <;> rw [hu] at hends
    · exact absurd hends (by decide)
    · simp [endsData] at hends
    · obtain ⟨rfl, rfl⟩ : ']' = x ∧ ']' = y := by simpa [endsData] using hends
      exact infix_of_reverse_eq (p := "]]".toList) hu
  have hsection := splitAtAngle_section "]]".toList rest (by decide) (by decide) hinside rfl
  have hsplit : splitAtAngle endsData []
      ('!' :: '[' :: ("CDATA[".toList ++ (s ++ ("]]".toList ++ '>' :: rest)))) = _ := hsection
  change bangPiece ('!' :: '[' :: ("CDATA[".toList ++ (s ++ ("]]".toList ++ '>' :: rest)))) = _
  rw [bangPiece, hsplit]
  simp

/-- **A comment** is passed over as a whole, if there are no two hyphens in it. What it says is
lost, as nothing asks for it. -/
theorem markupPiece_comment (h : ¬ "--".toList <:+: s) :
    markupPiece opened ("!--".toList ++ (s ++ ("--".toList ++ '>' :: rest))) =
      .event .aside rest := by
  have hinside : ∀ u v, s = u ++ '>' :: v →
      endsComment (u.reverse ++ "!--".toList.reverse) = false := by
    rintro u v rfl
    refine Bool.eq_false_iff.mpr fun hends => h ?_
    obtain ⟨hlength, hhyphens⟩ := Bool.and_eq_true_iff.mp hends
    -- The hyphens of the start do not count: with fewer than two of the text it is too short.
    rcases hu : u.reverse with _ | ⟨x, _ | ⟨y, w⟩⟩ <;> rw [hu] at hlength hhyphens
    · exact absurd hlength (by decide)
    · exact absurd hlength (by simp)
    · obtain ⟨rfl, rfl⟩ : '-' = x ∧ '-' = y := by simpa using hhyphens
      exact (List.prefix_append _ _).isInfix.trans (infix_of_reverse_eq (p := "--".toList) hu)
  have hsection := splitAtAngle_section "--".toList rest (by decide) (by decide) hinside
    (by simp [endsComment])
  have hsplit : splitAtAngle endsComment []
      ('!' :: '-' :: ("-".toList ++ (s ++ ("--".toList ++ '>' :: rest)))) = _ := hsection
  change bangPiece ('!' :: '-' :: ("-".toList ++ (s ++ ("--".toList ++ '>' :: rest)))) = _
  rw [bangPiece, hsplit]
  rfl

/-- **An instruction** is passed over as a whole, if the mark of its end is not in it. That mark may
take its first character from the start. -/
theorem markupPiece_instruction (h : ¬ "?>".toList <:+: '?' :: s) :
    markupPiece opened ("?".toList ++ (s ++ ("?".toList ++ '>' :: rest))) =
      .event .aside rest := by
  have hinside : ∀ u v, s = u ++ '>' :: v →
      endsInstruction (u.reverse ++ "?".toList.reverse) = false := by
    rintro u v rfl
    refine Bool.eq_false_iff.mpr fun hends => h ?_
    -- Here the mark of the start does count, so it is taken for part of the text.
    have hu : ('?' :: u).reverse = u.reverse ++ "?".toList.reverse := List.reverse_cons
    rw [← hu] at hends
    obtain ⟨w, hw⟩ := List.isPrefixOf_iff_prefix.mp hends
    exact infix_of_reverse_eq (p := "?".toList) (u := '?' :: u) hw.symm
  have hsplit := splitAtAngle_section "?".toList rest (by decide) (by decide) hinside rfl
  change instructionPiece _ = _
  rw [instructionPiece, hsplit]
  simp

end

/-! ### Tags -/

/-- The text does not end a tag, and every quotation that starts in it ends in it. -/
def IsBalanced (s : List Char) : Prop :=
  ∀ before rest, splitTag none before (s ++ rest) = splitTag none (s.reverse ++ before) rest

namespace IsBalanced

theorem nil : IsBalanced [] :=
  fun _ _ => rfl

theorem append {s t : List Char} (hs : IsBalanced s) (ht : IsBalanced t) : IsBalanced (s ++ t) := by
  intro before rest
  rw [List.append_assoc, hs, ht, List.reverse_append, List.append_assoc]

/-- A text without quotes and brackets is balanced. Names and white space are such texts. -/
theorem of_plain {s : List Char} (h : ∀ c ∈ s, c ∉ ">'\"".toList) : IsBalanced s := by
  induction s with
  | nil => exact nil
  | cons c s ih =>
    have hc : c ≠ '>' ∧ c ≠ '\'' ∧ c ≠ '"' := by
      simpa [not_or] using h c List.mem_cons_self
    intro before rest
    rw [List.cons_append, splitTag, if_neg hc.1]
    simp only [hc.2.1, hc.2.2, decide_false, Bool.or_self, Bool.false_eq_true, if_false]
    rw [ih fun d hd => h d (List.mem_cons_of_mem c hd), List.reverse_cons, List.append_assoc]
    rfl

end IsBalanced

/-- A quotation goes on to the next quote of its kind; brackets and the other quotes count for
nothing in it. -/
theorem splitTag_quoted {q : Char} {s before rest : List Char} (h : q ∉ s) :
    splitTag (some q) before (s ++ q :: rest) =
      splitTag none (q :: (s.reverse ++ before)) rest := by
  induction s generalizing before with
  | nil =>
    rw [List.nil_append, splitTag]
    simp only [if_true]
    rfl
  | cons c s ih =>
    rw [List.mem_cons, not_or] at h
    rw [List.cons_append, splitTag]
    simp only [Ne.symm h.1, if_false]
    rw [ih h.2, List.reverse_cons, List.append_assoc]
    rfl

/-- A quotation is balanced, whatever it holds besides its own quote. So an attribute may have a `>`
in its value. -/
theorem IsBalanced.quotation {q : Char} {s : List Char} (hq : q = '\'' ∨ q = '"') (h : q ∉ s) :
    IsBalanced (q :: s ++ [q]) := by
  intro before rest
  have hangle : q ≠ '>' := by rcases hq with rfl | rfl <;> decide
  have hquote : (decide (q = '\'') || decide (q = '"')) = true := by
    rcases hq with rfl | rfl <;> decide
  rw [List.append_assoc, List.cons_append, splitTag, if_neg hangle, if_pos hquote]
  rw [List.singleton_append, splitTag_quoted h]
  simp

theorem splitTag_of_isBalanced {s rest : List Char} (h : IsBalanced s) :
    splitTag none [] (s ++ '>' :: rest) = some (s, rest) := by
  rw [h, splitTag, if_pos rfl, List.append_nil, List.reverse_reverse]

theorem IsGap.isBalanced {s : List Char} (h : IsGap s) : IsBalanced s := by
  have hmarks : ∀ c ∈ ">'\"".toList, isSpace c = false := by simp [isSpace]
  exact .of_plain fun c hc hmem => Bool.noConfusion ((hmarks c hmem).symm.trans (h c hc))

theorem IsName.isBalanced {s : List Char} (h : IsName s) : IsBalanced s := by
  have hmarks : ∀ c ∈ ">'\"".toList, c ∈ "<>/=&!?'\"".toList := by simp
  exact .of_plain fun c hc hmem => (h.2 c hc).2 (hmarks c hmem)

/-- An attribute is balanced, as its value is quoted. -/
theorem Attribute.WellFormed.isBalanced {a : Attribute} (h : a.WellFormed) :
    IsBalanced a.write := by
  have hequal : IsBalanced ('=' :: a.after) :=
    (IsBalanced.of_plain (s := ['=']) (by simp)).append h.after.isBalanced
  exact (((h.gap.isBalanced.append h.name.isBalanced).append h.before.isBalanced).append
    hequal).append (.quotation h.quote h.value)

/-- A joined text ends in a character only if one of its parts does. It is used for the slash before
the end of a tag. -/
theorem getLast?_append_ne {c : Char} {s t : List Char} (hs : s.getLast? ≠ some c)
    (ht : t.getLast? ≠ some c) : (s ++ t).getLast? ≠ some c := by
  rw [List.getLast?_append]
  cases hlast : t.getLast? with
  | none => exact hs
  | some d =>
    rw [hlast] at ht
    exact ht

theorem Attribute.WellFormed.getLast?_write {a : Attribute} (h : a.WellFormed) :
    a.write.getLast? ≠ some '/' := by
  rw [Attribute.write, ← List.append_assoc, List.getLast?_concat]
  rcases h.quote with hquote | hquote <;> rw [hquote] <;> decide

/-- What the texts of all attributes have and texts keep when they are joined, those of all
attributes together have. -/
theorem flatMap_write_of {P : List Char → Prop} (hnil : P [])
    (happend : ∀ {s t}, P s → P t → P (s ++ t)) {as : List Attribute}
    (h : ∀ a ∈ as, P a.write) : P (as.flatMap Attribute.write) := by
  induction as with
  | nil => exact hnil
  | cons a as ih =>
    rw [List.flatMap_cons]
    exact happend (h a List.mem_cons_self) (ih fun b hb => h b (List.mem_cons_of_mem a hb))

namespace Tag.WellFormed

variable {t : Tag} (h : t.WellFormed)

include h

/-- A tag is balanced, so it ends at the `>` that was written for it. -/
theorem isBalanced : IsBalanced t.write := by
  have hattributes : IsBalanced (t.attributes.flatMap Attribute.write) :=
    flatMap_write_of .nil .append fun a ha => (h.attributes a ha).isBalanced
  exact h.name.isBalanced.append (hattributes.append h.gap.isBalanced)

/-- After the name of a tag stands nothing, or white space. So the name of a tag can be told from
what follows it. -/
theorem isSpace_of_head {c : Char} {rest : List Char} (hc : t.writeAfterName = c :: rest) :
    isSpace c = true := by
  rw [writeAfterName] at hc
  cases hattributes : t.attributes with
  | nil =>
    rw [hattributes, List.flatMap_nil, List.nil_append] at hc
    exact h.gap c (hc ▸ List.mem_cons_self)
  | cons a as =>
    have ha : a.WellFormed := h.attributes a (hattributes ▸ List.mem_cons_self)
    obtain ⟨d, gap, hgap⟩ := List.exists_cons_of_ne_nil ha.gap_ne_nil
    have hd : isSpace d = true := ha.gap d (hgap ▸ List.mem_cons_self)
    rw [hattributes, List.flatMap_cons, Attribute.write, hgap] at hc
    simp only [List.cons_append, List.cons.injEq] at hc
    exact hc.1 ▸ hd

/-- The name of a tag is read as it was written. It ends at the first white space, or with the
tag. -/
theorem tagName_write : tagName t.write = t.name := by
  have hname : ∀ c ∈ t.name.toList, (!isSpace c) = true := fun c hc => by
    rw [(h.name.2 c hc).1, Bool.not_false]
  have hafter : t.writeAfterName.takeWhile (!isSpace ·) = [] := by
    cases hrest : t.writeAfterName with
    | nil => rfl
    | cons c rest => simp [h.isSpace_of_head hrest]
  rw [tagName, Tag.write, List.takeWhile_append_of_pos hname, hafter, List.append_nil]
  exact String.ofList_toList

/-- No tag ends in a slash, which would make it that of an element without content. The value of an
attribute may, but a quote stands behind it. -/
theorem getLast?_write : t.write.getLast? ≠ some '/' := by
  have hattributes : (t.attributes.flatMap Attribute.write).getLast? ≠ some '/' :=
    flatMap_write_of (P := (List.getLast? · ≠ some '/')) (by simp) getLast?_append_ne fun a ha =>
      (h.attributes a ha).getLast?_write
  have hname : t.name.toList.getLast? ≠ some '/' := fun hlast =>
    (h.name.2 '/' (List.mem_of_getLast? hlast)).2 (by decide)
  have hgap : t.gap.getLast? ≠ some '/' := fun hlast =>
    absurd (h.gap '/' (List.mem_of_getLast? hlast)) (by decide)
  exact getLast?_append_ne hname (getLast?_append_ne hattributes hgap)

/-- A tag does not start as other markup does. A name begins neither with `!` nor with `?` or
`/`. -/
theorem markupPiece_eq_openingPiece (opened : List String) (rest : List Char) :
    markupPiece opened (t.write ++ rest) = openingPiece (t.write ++ rest) := by
  obtain ⟨c, name, hname⟩ := List.exists_cons_of_ne_nil h.name.1
  have hc : c ∉ "<>/=&!?'\"".toList := (h.name.2 c (hname ▸ List.mem_cons_self)).2
  rw [Tag.write, hname, List.append_assoc, List.cons_append]
  unfold markupPiece
  -- None of the characters that start other markup can start a name.
  split
  · next heq => cases heq
  · next heq => cases heq; exact absurd hc (by decide)
  · next heq => cases heq; exact absurd hc (by decide)
  · next heq => cases heq; exact absurd hc (by decide)
  · rfl

/-- **An opening tag** is read as the start of its element. The attributes are passed over. -/
theorem markupPiece_start (opened : List String) (rest : List Char) :
    markupPiece opened (t.write ++ '>' :: rest) = .event (.start t.name) rest := by
  rw [h.markupPiece_eq_openingPiece, openingPiece, splitTag_of_isBalanced h.isBalanced]
  simp only [h.getLast?_write, if_false, h.tagName_write]

/-- **A tag with a slash before its end** is read as an element without content. It is one event,
and no element is left open. -/
theorem markupPiece_empty (opened : List String) (rest : List Char) :
    markupPiece opened (t.write ++ ("/".toList ++ '>' :: rest)) = .event (.empty t.name) rest := by
  have hbalanced : IsBalanced (t.write ++ "/".toList) :=
    h.isBalanced.append (.of_plain (by simp))
  have hsplit : splitTag none [] (t.write ++ ("/".toList ++ '>' :: rest)) =
      some (t.write ++ ['/'], rest) := by
    rw [← List.append_assoc, splitTag_of_isBalanced hbalanced]
    rfl
  rw [h.markupPiece_eq_openingPiece, openingPiece, hsplit]
  simp only [List.getLast?_concat, if_true, List.dropLast_concat, h.tagName_write]

end Tag.WellFormed

/-- White space behind the name of a closing tag is not part of the name. The name itself has
none. -/
theorem closingName_append {name gap : List Char} (hname : IsName name) (hgap : IsGap gap) :
    closingName (name ++ gap) = name := by
  have htrimmed : (name ++ gap).reverse.dropWhile isSpace = name.reverse := by
    rw [List.reverse_append,
      List.dropWhile_append_of_pos fun c hc => hgap c (List.mem_reverse.mp hc)]
    cases hrev : name.reverse with
    | nil => rfl
    | cons c rest =>
      have hc : c ∈ name := List.mem_reverse.mp (hrev ▸ List.mem_cons_self)
      exact List.dropWhile_cons_of_neg (by rw [(hname.2 c hc).1]; decide)
  have hne : name.isEmpty = false := List.isEmpty_eq_false_iff.mpr hname.1
  simp only [closingName, htrimmed, List.reverse_reverse, hne, Bool.false_eq_true, if_false]

/-- **A closing tag** is read as the end of the innermost element, if it has its name. Elements
further out play no part. -/
theorem markupPiece_stop {name : String} {gap : List Char} (hname : IsName name.toList)
    (hgap : IsGap gap) (opened : List String) (rest : List Char) :
    markupPiece (name :: opened) ("/".toList ++ (name.toList ++ gap) ++ '>' :: rest) =
      .event (.stop name) rest := by
  have hbalanced : IsBalanced ("/".toList ++ (name.toList ++ gap)) :=
    (IsBalanced.of_plain (by simp)).append (hname.isBalanced.append hgap.isBalanced)
  have hdrop : ("/".toList ++ (name.toList ++ gap)).drop 1 = name.toList ++ gap := rfl
  change closingPiece (name :: opened) ("/".toList ++ (name.toList ++ gap) ++ '>' :: rest) = _
  rw [closingPiece, splitTag_of_isBalanced hbalanced]
  simp only [hdrop, closingName_append hname hgap, String.ofList_toList, if_true]

end Markup

end EntityScript
