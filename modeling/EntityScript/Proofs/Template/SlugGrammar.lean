import EntityScript.Template.Slug

/-!
# The grammar of slugs

A spelling follows the grammar (`Spelling.WellFormed`) when blanks and nothing else stand after its
keywords, its modifier is one of its scope or missing, and its inner text holds neither a closer nor
a line feed. The text of a spelling is then an opener, the keyword of the scope, blanks, perhaps the
keyword of a modifier and blanks, a parenthesis, the inner text and a closer.

Each part is read by a function of its own, and for each one a lemma says exactly what it reads.
Together they give that reading a slug is the inverse of writing one
(`Spelling.parse?_eq_some_iff`), hence that a text has at most one slug at its start
(`Spelling.eq_of_append_eq`).
-/

namespace EntityScript

namespace Template

/-! ### The grammar -/

/-- The keyword of the modifier, if there is one, with the blanks after it. -/
structure Modifier.IsPart (m : Modifier) (scope : SlugScope) (gap : List Char) : Prop where
  /-- The modifier has a keyword in the scope, or both keyword and blanks are missing. -/
  mem_or_missing : m ∈ scope.modifiers ∨ m = .identity ∧ gap = []
  blank : ∀ c ∈ gap, Text.isBlank c = true

/-- What may stand between the parentheses of a slug. -/
structure IsInner (inner : List Char) : Prop where
  no_closer : ¬ closer <:+: inner
  no_line_feed : '\n' ∉ inner

/-- A spelling that follows the grammar. -/
structure Spelling.WellFormed (w : Spelling) : Prop where
  gap_blank : ∀ c ∈ w.gap, Text.isBlank c = true
  modifier_isPart : w.modifier.IsPart w.scope w.modifierGap
  inner_isInner : IsInner w.inner

/-! ### Prefixes and closers -/

/-- A prefix is dropped exactly where the text begins with it. -/
theorem dropPrefix?_eq_some_iff {p s rest : List Char} :
    dropPrefix? p s = some rest ↔ s = p ++ rest := by
  simp only [dropPrefix?]
  constructor
  · intro h
    split at h
    · next hp =>
      obtain ⟨t, rfl⟩ := List.isPrefixOf_iff_prefix.mp hp
      simp only [List.drop_left, Option.some.injEq] at h
      rw [h]
    · cases h
  · rintro rfl
    rw [if_pos (List.isPrefixOf_iff_prefix.mpr (List.prefix_append p rest)), List.drop_left]

/-- Nothing is dropped where the text begins otherwise. -/
theorem dropPrefix?_eq_none_iff {p s : List Char} : dropPrefix? p s = none ↔ ¬ p <+: s := by
  simp only [dropPrefix?]
  split
  · next h => simp [List.isPrefixOf_iff_prefix.mp h]
  · next h => simp [← List.isPrefixOf_iff_prefix, h]

/-- A closer that begins before another closer ends before it begins. So the text before the first
closer can be told. -/
theorem closer_prefix_append {inner rest : List Char} (hne : inner ≠ [])
    (h : closer <+: inner ++ (closer ++ rest)) : closer <+: inner := by
  -- The characters of a closer differ, so no two closers overlap.
  match inner, hne with
  | [a], _ => simp [closer] at h
  | [a, b], _ => simp [closer] at h
  | a :: b :: c :: inner, _ => simpa [closer] using h

/-- **The closer**: a text is split at the first closer in it. What stands before it has no closer
in it, and what stands behind it may. -/
theorem splitAtCloser_eq_some_iff {s inner rest : List Char} :
    splitAtCloser s = some (inner, rest) ↔ s = inner ++ (closer ++ rest) ∧ ¬ closer <:+: inner := by
  induction s generalizing inner with
  | nil => simp [splitAtCloser, closer]
  | cons c s ih =>
    simp only [splitAtCloser]
    cases h : dropPrefix? closer (c :: s) with
    | some r =>
      have hs := dropPrefix?_eq_some_iff.mp h
      simp only [Option.some.injEq, Prod.mk.injEq]
      constructor
      · rintro ⟨rfl, rfl⟩
        exact ⟨hs, by simp [closer]⟩
      · rintro ⟨hsplit, hinner⟩
        by_cases hne : inner = []
        · subst hne
          rw [hs] at hsplit
          exact ⟨rfl, List.append_cancel_left hsplit⟩
        · -- An inner text that is not empty would hold the closer with which the whole begins.
          have hstart : closer <+: inner ++ (closer ++ rest) := by
            rw [← hsplit, hs]
            exact List.prefix_append closer r
          exact absurd (closer_prefix_append hne hstart).isInfix hinner
    | none =>
      have hs := dropPrefix?_eq_none_iff.mp h
      simp only [Option.map_eq_some_iff, Prod.exists, Prod.mk.injEq]
      constructor
      · rintro ⟨inner', rest', hsplit, rfl, rfl⟩
        obtain ⟨rfl, hinner⟩ := ih.mp hsplit
        refine ⟨rfl, fun hcloser => ?_⟩
        rcases List.infix_cons_iff.mp hcloser with hstart | hinfix
        · exact hs (hstart.trans (List.prefix_append (c :: inner') _))
        · exact hinner hinfix
      · rintro ⟨hsplit, hinner⟩
        cases inner with
        | nil => exact absurd ⟨rest, hsplit.symm⟩ hs
        | cons d inner =>
          simp only [List.cons_append, List.cons.injEq] at hsplit
          obtain ⟨rfl, rfl⟩ := hsplit
          have hinner' : ¬ closer <:+: inner := fun hinfix =>
            hinner (List.infix_cons hinfix)
          exact ⟨inner, rest, ih.mpr ⟨rfl, hinner'⟩, rfl, rfl⟩

/-! ### Keywords -/

/-- **The scope**: what is read is its keyword, and nothing is read where none stands. The keywords
of the two scopes exclude each other. -/
theorem readScope_eq_some_iff {s rest : List Char} {scope : SlugScope} :
    readScope s = some (scope, rest) ↔ s = scope.keyword.toList ++ rest := by
  have hattr : SlugScope.attr.keyword.toList = ['a', 't', 't', 'r'] := rfl
  have hent : SlugScope.ent.keyword.toList = ['e', 'n', 't'] := rfl
  -- One keyword is tried first; as they begin with different characters, the order is no matter.
  simp only [readScope]
  cases h : dropPrefix? SlugScope.attr.keyword.toList s with
  | some r =>
    obtain rfl := dropPrefix?_eq_some_iff.mp h
    cases scope <;> simp [hattr, hent, eq_comm]
  | none =>
    have hs := dropPrefix?_eq_none_iff.mp h
    simp only [Option.map_eq_some_iff, Prod.mk.injEq, dropPrefix?_eq_some_iff]
    cases scope with
    | ent => simp
    | attr =>
      have : s ≠ SlugScope.attr.keyword.toList ++ rest := fun heq => hs ⟨rest, heq.symm⟩
      simp [this]

/-- The first characters of keywords are no blanks and no parentheses. Hence the blanks before a
modifier end with it. -/
theorem keyword_eq_cons {scope : SlugScope} {m : Modifier} (h : m ∈ scope.modifiers) :
    ∃ c t, m.keyword.toList = c :: t ∧ Text.isBlank c = false ∧ c ≠ '(' := by
  cases m
  case identity => cases scope <;> simp [SlugScope.modifiers] at h
  all_goals exact ⟨_, _, rfl, by decide, by decide⟩

/-- No two keywords of a scope begin alike, so the order in which they are tried does not matter. -/
theorem eq_of_keyword_append_eq {scope : SlugScope} {m m' : Modifier} {s t : List Char}
    (h : m ∈ scope.modifiers) (h' : m' ∈ scope.modifiers)
    (heq : m.keyword.toList ++ s = m'.keyword.toList ++ t) : m = m' := by
  have hne : ∀ m ∈ scope.modifiers, m ≠ .identity := by cases scope <;> decide
  have hm := hne m h
  have hm' := hne m' h'
  revert heq hm hm'
  cases m <;> cases m' <;> simp [Modifier.keyword]

/-! ### Blanks and modifiers -/

/-- Blanks end at the first character that is none. The reader takes as many of them as there
are. -/
theorem span_blanks {gap s : List Char} {c : Char} (hgap : ∀ c ∈ gap, Text.isBlank c = true)
    (hc : Text.isBlank c = false) :
    (gap ++ c :: s).takeWhile Text.isBlank = gap ∧ Text.trimStart (gap ++ c :: s) = c :: s := by
  have hstop : (c :: s).takeWhile Text.isBlank = [] := by simp [hc]
  constructor
  · rw [List.takeWhile_append_of_pos hgap, hstop, List.append_nil]
  · rw [Text.trimStart, List.dropWhile_append_of_pos hgap]
    exact Text.trimStart_eq_self hc

/-- Blanks before a parenthesis are settled by the text. No blank is a parenthesis, so neither of
the two runs can go on. -/
theorem eq_of_blanks_append_eq {gap gap' s t : List Char}
    (hgap : ∀ c ∈ gap, Text.isBlank c = true) (hgap' : ∀ c ∈ gap', Text.isBlank c = true)
    (h : gap ++ '(' :: s = gap' ++ '(' :: t) : gap = gap' ∧ s = t := by
  obtain ⟨htake, htrim⟩ := span_blanks (c := '(') (s := s) hgap (by decide)
  obtain ⟨htake', htrim'⟩ := span_blanks (c := '(') (s := t) hgap' (by decide)
  rw [h] at htake htrim
  refine ⟨htake.symm.trans htake', ?_⟩
  simpa using htrim.symm.trans htrim'

/-- A keyword is read only with the blanks and the parenthesis that have to stand behind it. With
anything else behind it, it counts as no keyword at all. -/
theorem readKeyword_eq_some_iff {m : Modifier} {s : List Char}
    {r : Modifier × List Char × List Char} :
    readKeyword m s = some r ↔
      ∃ gap body, r = (m, gap, '(' :: body) ∧ (∀ c ∈ gap, Text.isBlank c = true) ∧
        s = m.keyword.toList ++ (gap ++ '(' :: body) := by
  simp only [readKeyword]
  constructor
  · intro h
    split at h
    · cases h
    · next rest hrest =>
      split at h
      · next body hbody =>
        refine ⟨rest.takeWhile Text.isBlank, body, (Option.some.inj h).symm,
          List.all_eq_true.mp List.all_takeWhile, ?_⟩
        rw [← hbody, Text.takeWhile_append_trimStart]
        exact dropPrefix?_eq_some_iff.mp hrest
      · cases h
  · rintro ⟨gap, body, rfl, hgap, rfl⟩
    obtain ⟨htake, htrim⟩ := span_blanks (c := '(') (s := body) hgap (by decide)
    simp only [dropPrefix?_eq_some_iff.mpr rfl, htrim, htake]

/-- **The modifier**: what is read before a parenthesis is the part of the grammar that stands
there. -/
theorem readModifier_eq_iff {scope : SlugScope} {s gap body : List Char} {m : Modifier} :
    readModifier scope s = (m, gap, '(' :: body) ↔
      m.IsPart scope gap ∧ s = m.keyword.toList ++ (gap ++ '(' :: body) := by
  simp only [readModifier]
  cases hfind : scope.modifiers.findSome? (readKeyword · s) with
  | some r =>
    obtain ⟨m₀, hm₀, hr⟩ := List.exists_of_findSome?_eq_some hfind
    obtain ⟨gap₀, body₀, rfl, hgap₀, rfl⟩ := readKeyword_eq_some_iff.mp hr
    simp only [Option.getD_some, Prod.mk.injEq, List.cons.injEq, true_and]
    constructor
    · rintro ⟨rfl, rfl, rfl⟩
      exact ⟨⟨Or.inl hm₀, hgap₀⟩, rfl⟩
    · rintro ⟨⟨hm | ⟨rfl, rfl⟩, hgap⟩, heq⟩
      · obtain rfl := eq_of_keyword_append_eq hm₀ hm heq
        obtain ⟨rfl, rfl⟩ := eq_of_blanks_append_eq hgap₀ hgap (List.append_cancel_left heq)
        exact ⟨rfl, rfl, rfl⟩
      · -- The text would begin with a keyword and with a parenthesis.
        obtain ⟨c, t, hkeyword, -, hc⟩ := keyword_eq_cons hm₀
        rw [hkeyword] at heq
        exact absurd (List.cons.inj heq).1 hc
  | none =>
    simp only [Option.getD_none, Prod.mk.injEq]
    constructor
    · rintro ⟨rfl, rfl, rfl⟩
      exact ⟨⟨Or.inr ⟨rfl, rfl⟩, by simp⟩, rfl⟩
    · rintro ⟨⟨hm | ⟨rfl, rfl⟩, hgap⟩, heq⟩
      · have hread : readKeyword m s = some (m, gap, '(' :: body) :=
          readKeyword_eq_some_iff.mpr ⟨gap, body, rfl, hgap, heq⟩
        rw [List.findSome?_eq_none_iff.mp hfind m hm] at hread
        cases hread
      · exact ⟨rfl, rfl, heq⟩

/-! ### Slugs -/

namespace Spelling

/-- The parts of a slug in front of more text, put so that each is followed by all others. -/
theorem toList_append (w : Spelling) (rest : List Char) :
    w.toList ++ rest =
      opener ++ (w.scope.keyword.toList ++ (w.gap ++ (w.modifier.keyword.toList ++
        (w.modifierGap ++ '(' :: (w.inner ++ (closer ++ rest)))))) := by
  simp only [toList, List.append_assoc, List.cons_append]

/-- After the blanks that follow the keyword of the scope stands a character that is no blank: the
first one of the modifier, or the parenthesis. -/
theorem modifier_append_eq_cons {scope : SlugScope} {m : Modifier} {gap : List Char}
    (h : m.IsPart scope gap) (body : List Char) :
    ∃ c t, m.keyword.toList ++ (gap ++ '(' :: body) = c :: t ∧ Text.isBlank c = false := by
  rcases h.mem_or_missing with hm | ⟨rfl, rfl⟩
  · obtain ⟨c, t, hkeyword, hc, -⟩ := keyword_eq_cons hm
    exact ⟨c, _, by rw [hkeyword, List.cons_append], hc⟩
  · exact ⟨'(', body, rfl, by decide⟩

/-- **Reading a slug is the inverse of writing one**: after an opener exactly the spellings of the
grammar are read, each with the text that follows it. -/
theorem parse?_eq_some_iff {s rest : List Char} {w : Spelling} :
    parse? s = some (w, rest) ↔ w.WellFormed ∧ opener ++ s = w.toList ++ rest := by
  rw [toList_append, List.append_cancel_left_eq]
  simp only [parse?, Option.bind_eq_bind, Option.bind_eq_some_iff, Prod.exists]
  constructor
  · rintro ⟨scope, s₁, hscope, body, hbody, inner, rest', hinner, h⟩
    split at h
    · cases h
    · next hline =>
      simp only [Option.some.injEq, Prod.mk.injEq] at h
      obtain ⟨rfl, rfl⟩ := h
      have hmodifier := readModifier_eq_iff.mp
        (show readModifier scope (Text.trimStart s₁) = (_, _, '(' :: body) from
          Prod.ext rfl (Prod.ext rfl (dropPrefix?_eq_some_iff.mp hbody)))
      obtain ⟨rfl, hcloser⟩ := splitAtCloser_eq_some_iff.mp hinner
      refine ⟨⟨List.all_eq_true.mp List.all_takeWhile, hmodifier.1, hcloser, by simpa using hline⟩,
        ?_⟩
      rw [← hmodifier.2, Text.takeWhile_append_trimStart]
      exact readScope_eq_some_iff.mp hscope
  · rintro ⟨⟨hgap, hmodifier, hinner⟩, rfl⟩
    -- The blanks before the modifier are all the blanks there are: no modifier begins with one.
    obtain ⟨c, t, hcons, hc⟩ :=
      modifier_append_eq_cons hmodifier (w.inner ++ (closer ++ rest))
    obtain ⟨htake, htrim⟩ := span_blanks (s := t) hgap hc
    rw [← hcons] at htake htrim
    have hread := readModifier_eq_iff.mpr ⟨hmodifier, htrim⟩
    refine ⟨w.scope, _, readScope_eq_some_iff.mpr rfl, w.inner ++ (closer ++ rest), ?_,
      w.inner, rest, splitAtCloser_eq_some_iff.mpr ⟨rfl, hinner.no_closer⟩, ?_⟩
    · rw [hread]
      exact dropPrefix?_eq_some_iff.mpr rfl
    · rw [hread, htake, if_neg (by simp [hinner.no_line_feed])]

/-- **One slug at a place**: two spellings of the grammar at the start of one text are the same. So
writing a slug in front of a text loses nothing. -/
theorem eq_of_append_eq {w w' : Spelling} {s t : List Char} (hw : w.WellFormed)
    (hw' : w'.WellFormed) (h : w.toList ++ s = w'.toList ++ t) : w = w' ∧ s = t := by
  have hread : parse? (w.toList ++ s).tail.tail = some (w, s) :=
    parse?_eq_some_iff.mpr ⟨hw, by rw [toList_append]; rfl⟩
  have hread' : parse? (w.toList ++ s).tail.tail = some (w', t) :=
    parse?_eq_some_iff.mpr ⟨hw', by rw [h, toList_append]; rfl⟩
  rw [hread, Option.some.injEq, Prod.mk.injEq] at hread'
  exact hread'

end Spelling

end Template

end EntityScript
