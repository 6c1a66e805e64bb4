import EntityScript.Proofs.Template.Splicing

/-!
# The slugs of a concatenation

What follows a text does not change the slugs of the text, although it can complete an opener that
has no closer yet. This is so because a slug ends with the first closer after its opener: of two
slugs that overlap, the one that begins first does not end last (`Slug.OccursIn.stop_le`). A slug
that is completed by what follows therefore begins after every slug of the text.

**Main statement**: the slugs of a text come first among those of a concatenation; and those of the
second text, moved by the length of the first one, are all the others exactly if no slug goes over
the place where the texts meet (`scan_append`).
-/

namespace EntityScript

/-! ### Prefixes by their length -/

namespace Text

/-- Of two prefixes of a text, the one with fewer bytes is a prefix of the other one. So prefixes
are compared by their offsets. -/
theorem prefix_of_byteLength_le {p q s : List Char} (hp : p <+: s) (hq : q <+: s)
    (hle : byteLength p ≤ byteLength q) : p <+: q := by
  rcases List.prefix_or_prefix_of_prefix hp hq with hpq | ⟨t, rfl⟩
  · exact hpq
  · rw [byteLength_append] at hle
    have ht : t = [] := byteLength_eq_zero_iff.mp (by omega)
    exact ⟨[], by rw [ht, List.append_nil, List.append_nil]⟩

end Text

namespace Template

/-! ### First closers -/

/-- A text without a closer in it is a prefix of every text that a closer follows as well. This says
that a slug cannot end later than the first closer. -/
theorem prefix_of_append_closer {x x' y y' : List Char} (hx : ¬ closer <:+: x)
    (h : x ++ (closer ++ y) = x' ++ (closer ++ y')) : x <+: x' := by
  rcases List.prefix_or_prefix_of_prefix (List.prefix_append x _)
    (h ▸ List.prefix_append x' (closer ++ y')) with hle | ⟨t, rfl⟩
  · exact hle
  · by_cases ht : t = []
    · exact ⟨[], by rw [ht, List.append_nil, List.append_nil]⟩
    · rw [List.append_assoc] at h
      have hcloser : closer <+: t ++ (closer ++ y) := ⟨y', (List.append_cancel_left h).symm⟩
      exact absurd ((closer_prefix_append ht hcloser).isInfix.trans
        (List.suffix_append x' t).isInfix) hx

/-- A closer is not begun by characters that are no closing parentheses. So a closer lies in what
follows them. -/
theorem closer_infix_of_append {p s : List Char} (hp : ')' ∉ p) (h : closer <:+: p ++ s) :
    closer <:+: s := by
  induction p with
  | nil => exact h
  | cons c p ih =>
    rw [List.mem_cons, not_or] at hp
    rcases List.infix_cons_iff.mp h with hstart | hrest
    · exact absurd (List.cons_prefix_cons.mp hstart).1 hp.1
    · exact ih hp.2 hrest

namespace Spelling

variable {w : Spelling}

/-- What stands in front of the closer of a slug. -/
def beforeCloser (w : Spelling) : List Char :=
  opener ++ w.scope.keyword.toList ++ w.gap ++ w.modifier.keyword.toList ++ w.modifierGap ++
    '(' :: w.inner

theorem beforeCloser_append_closer (w : Spelling) : w.beforeCloser ++ closer = w.toList := rfl

/-- **One closer**: a slug holds no closer before its end. The keywords, the blanks and the
parenthesis cannot begin one either. -/
theorem WellFormed.no_closer (hw : w.WellFormed) : ¬ closer <:+: w.beforeCloser := by
  intro h
  have hblanks : ∀ gap : List Char, (∀ c ∈ gap, Text.isBlank c = true) → ')' ∉ gap :=
    fun gap hgap hmem => absurd (hgap ')' hmem) (by decide)
  have hscope : ')' ∉ w.scope.keyword.toList := by cases w.scope <;> decide
  have hmodifier : ')' ∉ w.modifier.keyword.toList := by cases w.modifier <;> decide
  have hhead : ')' ∉ opener ++ w.scope.keyword.toList ++ w.gap ++ w.modifier.keyword.toList ++
      w.modifierGap ++ ['('] := by
    simp [opener, hscope, hmodifier, hblanks _ hw.gap_blank, hblanks _ hw.modifier_isPart.blank]
  rw [beforeCloser, ← List.singleton_append, ← List.append_assoc] at h
  exact hw.inner_isInner.no_closer (closer_infix_of_append hhead h)

end Spelling

/-! ### Slugs in a part of a text -/

namespace Slug

/-- The slug at a place some bytes further on. -/
def shift (n : Nat) (g : Slug) : Slug :=
  ⟨g.spelling, n + g.start⟩

@[simp] theorem spelling_shift (n : Nat) (g : Slug) : (g.shift n).spelling = g.spelling := rfl

@[simp] theorem start_shift (n : Nat) (g : Slug) : (g.shift n).start = n + g.start := rfl

@[simp] theorem stop_shift (n : Nat) (g : Slug) : (g.shift n).stop = n + g.stop :=
  Nat.add_assoc n g.start _

namespace OccursIn

variable {g h : Slug} {n : Nat} {s : List Char}

theorem append_right (t : List Char) (hg : g.OccursIn n s) : g.OccursIn n (s ++ t) := by
  obtain ⟨hw, u, v, rfl, hstart⟩ := hg
  exact ⟨hw, u, v ++ t, List.append_assoc _ v t, hstart⟩

theorem stop_le_length (hg : g.OccursIn n s) : g.stop ≤ n + Text.byteLength s := by
  obtain ⟨-, u, v, rfl, hstart⟩ := hg
  simp only [stop, Text.byteLength_append, ← hstart]
  omega

/-- A slug that ends in the first part of a text occurs in that part. Its text is cut out of the
first part then. -/
theorem of_append_of_stop_le {t : List Char} (hg : g.OccursIn n (s ++ t))
    (hstop : g.stop ≤ n + Text.byteLength s) : g.OccursIn n s := by
  obtain ⟨hw, u, v, heq, hstart⟩ := hg
  have hle : Text.byteLength (u ++ g.spelling.toList) ≤ Text.byteLength s := by
    simp only [stop, ← hstart] at hstop
    rw [Text.byteLength_append]
    omega
  obtain ⟨v', hv'⟩ := Text.prefix_of_byteLength_le (heq ▸ List.prefix_append _ v)
    (List.prefix_append s t) hle
  exact ⟨hw, u, v', hv'.symm, hstart⟩

/-- **The first one to begin does not end last**: a slug that begins inside another one goes at
least as far. -/
theorem stop_le (hg : g.OccursIn n s) (hh : h.OccursIn n s) (hcovers : h.Covers g.start) :
    h.stop ≤ g.stop := by
  obtain ⟨-, u, v, hs, hstart⟩ := hg
  obtain ⟨hw, u', v', hs', hstart'⟩ := hh
  have hle : Text.byteLength u' ≤ Text.byteLength u := by
    have := hcovers.1
    omega
  rw [List.append_assoc] at hs hs'
  obtain ⟨d, rfl⟩ := Text.prefix_of_byteLength_le (hs' ▸ List.prefix_append u' _)
    (hs ▸ List.prefix_append u _) hle
  -- After `u'` there is a closer at the end of each of the two.
  rw [hs', List.append_assoc] at hs
  have hclosers := List.append_cancel_left hs
  rw [← Spelling.beforeCloser_append_closer, ← Spelling.beforeCloser_append_closer,
    List.append_assoc, List.append_assoc, ← List.append_assoc d] at hclosers
  obtain ⟨t, ht⟩ := prefix_of_append_closer hw.no_closer hclosers
  have hlength := congrArg Text.byteLength ht
  simp only [stop, ← hstart, ← hstart', ← Spelling.beforeCloser_append_closer,
    Text.byteLength_append] at hlength ⊢
  omega

end OccursIn

end Slug

/-! ### Leftmost matches in a part of a text -/

/-- Where a text begins, moves its slugs and does nothing else to them. -/
theorem slugsFrom_eq_map_shift (n : Nat) (ps : List Passage) :
    slugsFrom n ps = (slugsFrom 0 ps).map (Slug.shift n) := by
  suffices h : ∀ k, slugsFrom (n + k) ps = (slugsFrom k ps).map (Slug.shift n) from h 0
  induction ps with
  | nil => exact fun _ => rfl
  | cons p ps ih =>
    intro k
    cases p with
    | plain c =>
      rw [slugsFrom, slugsFrom, Nat.add_assoc, ih]
    | slug w =>
      rw [slugsFrom, slugsFrom, Nat.add_assoc, ih, List.map_cons]
      rfl

/-- In a list of slugs that do not overlap, those that end up to an offset come first. So they are
cut off as a beginning of the list. -/
theorem mem_takeWhile_stop_le_iff {gs : List Slug} (hbefore : gs.Pairwise Slug.Before) {g : Slug}
    {n : Nat} : g ∈ gs.takeWhile (·.stop ≤ n) ↔ g ∈ gs ∧ g.stop ≤ n := by
  induction gs with
  | nil => simp
  | cons h gs ih =>
    obtain ⟨hfirst, hrest⟩ := List.pairwise_cons.mp hbefore
    by_cases hle : h.stop ≤ n
    · simp only [List.takeWhile_cons, hle, decide_true, if_true, List.mem_cons, ih hrest]
      exact ⟨fun hg => hg.elim (fun heq => ⟨Or.inl heq, heq ▸ hle⟩) fun hg => ⟨Or.inr hg.1, hg.2⟩,
        fun ⟨hg, hstop⟩ => hg.imp_right fun hg => ⟨hg, hstop⟩⟩
    · simp only [List.takeWhile_cons, hle, decide_false, Bool.false_eq_true, if_false,
        List.not_mem_nil, List.mem_cons, false_iff, not_and]
      rintro (rfl | hg) hstop
      · exact hle hstop
      · exact hle (((hfirst g hg).trans g.start_lt_stop.le).trans hstop)

namespace LeftmostMatches

variable {n : Nat} {s t : List Char} {gs gs' gs'' : List Slug}

/-- **The first part**: the leftmost matches of a text that end in its first part are those of the
first part. -/
theorem takeWhile_stop_le (h : LeftmostMatches n (s ++ t) gs) :
    LeftmostMatches n s (gs.takeWhile (·.stop ≤ n + Text.byteLength s)) where
  occurs g hg :=
    have ⟨hmem, hstop⟩ := (mem_takeWhile_stop_le_iff h.before).mp hg
    (h.occurs g hmem).of_append_of_stop_le hstop
  before := h.before.sublist (List.takeWhile_sublist _)
  covers g hg := by
    have hwhole := hg.append_right t
    obtain ⟨k, hk, hcovers⟩ := h.covers g hwhole
    have hstop : k.stop ≤ n + Text.byteLength s :=
      (hwhole.stop_le (h.occurs k hk) hcovers).trans hg.stop_le_length
    exact ⟨k, (mem_takeWhile_stop_le_iff h.before).mpr ⟨hk, hstop⟩, hcovers⟩

/-- **Both parts**: if no leftmost match goes over the place where two texts meet, the leftmost
matches are those of the two texts. -/
theorem append (h : LeftmostMatches n s gs) (h' : LeftmostMatches (n + Text.byteLength s) t gs')
    (hwhole : LeftmostMatches n (s ++ t) gs'')
    (hmeet : ∀ g ∈ gs'', g.stop ≤ n + Text.byteLength s ∨ n + Text.byteLength s ≤ g.start) :
    LeftmostMatches n (s ++ t) (gs ++ gs') where
  occurs := List.forall_mem_append.mpr
    ⟨fun g hg => (h.occurs g hg).append_right t, fun g hg => (h'.occurs g hg).append_left s⟩
  before := List.pairwise_append.mpr ⟨h.before, h'.before, fun g hg k hk =>
    (h.occurs g hg).stop_le_length.trans (h'.occurs k hk).le_start⟩
  covers g hg := by
    rcases Nat.lt_or_ge g.start (n + Text.byteLength s) with hlt | hge
    · obtain ⟨k, hk, hcovers⟩ := hwhole.covers g hg
      have hstop : k.stop ≤ n + Text.byteLength s :=
        (hmeet k hk).resolve_right (not_le.mpr (hcovers.1.trans_lt hlt))
      have hmem : k ∈ gs := h.unique hwhole.takeWhile_stop_le ▸
        (mem_takeWhile_stop_le_iff hwhole.before).mpr ⟨hk, hstop⟩
      exact ⟨k, List.mem_append_left gs' hmem, hcovers⟩
    · obtain ⟨k, hk, hcovers⟩ := h'.covers g (hg.of_append hge)
      exact ⟨k, List.mem_append_right gs hk, hcovers⟩

end LeftmostMatches

/-! ### Concatenations -/

/-- **Scanning a concatenation**: the slugs of the first text, at their places, come first among
those of the whole, and they are all of those that end in the first text. The others are the slugs
of the second text, moved by the length of the first one, if and only if no slug of the whole begins
before the place where the texts meet and ends after it. -/
theorem scan_append (a b : String) :
    scan a <+: scan (a ++ b) ∧
    (∀ g, g ∈ scan a ↔ g ∈ scan (a ++ b) ∧ g.stop ≤ Text.byteLength a.toList) ∧
    ((∀ g ∈ scan (a ++ b),
        ¬ (g.start < Text.byteLength a.toList ∧ Text.byteLength a.toList < g.stop)) ↔
      scan (a ++ b) = scan a ++ (scan b).map (Slug.shift (Text.byteLength a.toList))) := by
  set n := Text.byteLength a.toList
  have ha : LeftmostMatches 0 a.toList (scan a) := leftmostMatches_slugsFrom 0 a.toList
  have hb : LeftmostMatches (0 + n) b.toList ((scan b).map (Slug.shift n)) := by
    rw [Nat.zero_add, scan, ← slugsFrom_eq_map_shift]
    exact leftmostMatches_slugsFrom n b.toList
  have hab : LeftmostMatches 0 (a.toList ++ b.toList) (scan (a ++ b)) := by
    rw [scan, String.toList_append]
    exact leftmostMatches_slugsFrom 0 _
  have hfirst : scan a = (scan (a ++ b)).takeWhile (·.stop ≤ n) := by
    have htakeWhile := hab.takeWhile_stop_le
    rw [Nat.zero_add] at htakeWhile
    exact ha.unique htakeWhile
  refine ⟨hfirst ▸ List.takeWhile_prefix _, fun g => hfirst ▸ mem_takeWhile_stop_le_iff hab.before,
    fun hmeet => ?_, fun heq g hg => ?_⟩
  · -- Two lists of leftmost matches of one text are equal, so it is enough that the joined list is
    -- one.
    refine hab.unique (ha.append hb hab fun g hg => ?_)
    have := hmeet g hg
    omega
  · rw [heq] at hg
    rcases List.mem_append.mp hg with hg | hg
    · -- A match of the first text ends before the seam, a match of the second begins behind it.
      have := (ha.occurs g hg).stop_le_length
      omega
    · have := (hb.occurs g hg).le_start
      omega

/-- What follows can complete a slug, and even take in one that the second text has by itself. -/
example :
    (scan "\x7b#ent (a)#\x7d\x7b#ent (b").map (·.start) = [0] ∧
      (scan ("\x7b#ent (a)#\x7d\x7b#ent (b" ++ "\x7b#attr (c)#\x7d")).map (·.start) = [0, 11] := by
  decide +kernel

end Template

end EntityScript
