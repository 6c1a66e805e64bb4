import EntityScript.Proofs.Template.SlugGrammar
import Mathlib.Data.List.Pairwise
import Mathlib.Data.List.Sort

/-!
# The slugs of a text

A slug occurs in a text (`Slug.OccursIn`) when its spelling follows the grammar and stands at its
byte offset. The leftmost matches of a text (`LeftmostMatches`) are slugs that occur in it, one
after the other from left to right, such that every other slug that occurs in the text begins
inside one of them. A text has one list of leftmost matches and no other
(`LeftmostMatches.unique`), since a slug is settled by the place where it begins
(`Slug.OccursIn.eq_of_start_eq`).

The texts here begin at a byte offset `n`, as the rest of a longer text does.

**Main statement**: `scan` gives the leftmost matches of a text
(`leftmostMatches_scan_and_unique`).
-/

namespace EntityScript

namespace Template

/-! ### Occurrences -/

namespace Slug

/-- The slug stands at its place in the text `s`, which begins at the byte offset `n`. -/
structure OccursIn (g : Slug) (n : Nat) (s : List Char) : Prop where
  wellFormed : g.spelling.WellFormed
  stands : ∃ u v, s = u ++ g.spelling.toList ++ v ∧ n + Text.byteLength u = g.start

/-- The byte offset lies inside the slug. -/
def Covers (g : Slug) (offset : Nat) : Prop :=
  g.start ≤ offset ∧ offset < g.stop

/-- The slug ends before the other one begins. -/
def Before (g h : Slug) : Prop :=
  g.stop ≤ h.start

/-- One of the slugs ends before the other one begins. -/
def Apart (g h : Slug) : Prop :=
  g.Before h ∨ h.Before g

/-- A slug is not empty. -/
theorem start_lt_stop (g : Slug) : g.start < g.stop := by
  have hbrace : Char.utf8Size '\x7b' = 1 := by decide
  have hlength := congrArg Text.byteLength (g.spelling.toList_append [])
  simp only [opener, List.cons_append, Text.byteLength_cons, hbrace, List.append_nil] at hlength
  simp only [stop]
  omega

instance : Std.Irrefl Before where
  irrefl g h := absurd g.start_lt_stop (not_lt.mpr h)

instance : Std.Antisymm Before where
  antisymm g h hgh hhg := by
    have := g.start_lt_stop
    have := h.start_lt_stop
    simp only [Before] at hgh hhg
    omega

instance : Std.Symm Apart where
  symm _ _ := Or.symm

namespace OccursIn

variable {g h : Slug} {n : Nat} {s : List Char}

theorem le_start (hg : g.OccursIn n s) : n ≤ g.start := by
  obtain ⟨-, u, v, -, hstart⟩ := hg
  omega

/-- A slug of a text begins at its first character or occurs in the rest. Proofs along a text use
this, with the offset moved by the bytes of the character. -/
theorem cons_iff {c : Char} :
    g.OccursIn n (c :: s) ↔
      (g.spelling.WellFormed ∧ g.spelling.toList <+: c :: s ∧ g.start = n) ∨
        g.OccursIn (n + c.utf8Size) s := by
  constructor
  · rintro ⟨hw, u, v, heq, hstart⟩
    cases u with
    | nil => exact Or.inl ⟨hw, ⟨v, heq.symm⟩, hstart.symm⟩
    | cons d u =>
      simp only [List.cons_append, List.cons.injEq] at heq
      obtain ⟨rfl, heq⟩ := heq
      exact Or.inr ⟨hw, u, v, heq, by rw [← hstart, Text.byteLength_cons, Nat.add_assoc]⟩
  · rintro (⟨hw, ⟨v, heq⟩, rfl⟩ | ⟨hw, u, v, rfl, hstart⟩)
    · exact ⟨hw, [], v, heq.symm, rfl⟩
    · exact ⟨hw, c :: u, v, rfl, by rw [← hstart, Text.byteLength_cons, Nat.add_assoc]⟩

theorem append_left (t : List Char) (hg : g.OccursIn (n + Text.byteLength t) s) :
    g.OccursIn n (t ++ s) := by
  obtain ⟨hw, u, v, rfl, hstart⟩ := hg
  refine ⟨hw, t ++ u, v, by simp only [List.append_assoc], ?_⟩
  rw [← hstart, Text.byteLength_append, Nat.add_assoc]

/-- A slug that begins after the first part of a text occurs in the second part. Its offset tells
that it lies there as a whole. -/
theorem of_append {t : List Char} (hg : g.OccursIn n (t ++ s))
    (hstart : n + Text.byteLength t ≤ g.start) : g.OccursIn (n + Text.byteLength t) s := by
  induction t generalizing n with
  | nil => exact hg
  | cons c t ih =>
    rw [Text.byteLength_cons, ← Nat.add_assoc] at hstart ⊢
    rcases cons_iff.mp hg with ⟨-, -, hn⟩ | hrest
    · have := c.utf8Size_pos
      omega
    · exact ih hrest hstart

/-- **A slug is settled by its place**: at one offset of a text at most one slug occurs. What is
before the slug is settled by the offset, and what is read there is then one spelling. -/
theorem eq_of_start_eq (hg : g.OccursIn n s) (hh : h.OccursIn n s) (heq : g.start = h.start) :
    g = h := by
  induction s generalizing n with
  | nil =>
    obtain ⟨-, u, v, hnil, -⟩ := hg
    simp [Spelling.toList, opener] at hnil
  | cons c s ih =>
    have := c.utf8Size_pos
    rcases cons_iff.mp hg with ⟨hw, ⟨v, hv⟩, hn⟩ | hg' <;>
      rcases cons_iff.mp hh with ⟨hw', ⟨v', hv'⟩, hn'⟩ | hh'
    · obtain ⟨hspelling, -⟩ := Spelling.eq_of_append_eq hw hw' (hv.trans hv'.symm)
      cases g
      cases h
      simp_all only
    · have := hh'.le_start
      omega
    · have := hg'.le_start
      omega
    · exact ih hg' hh'

end OccursIn

end Slug

/-! ### Leftmost matches -/

/-- The slugs are those of the text `s`, which begins at the byte offset `n`, that are found by
looking for a slug from left to right and going on after each one. -/
structure LeftmostMatches (n : Nat) (s : List Char) (gs : List Slug) : Prop where
  /-- Every one of the slugs stands in the text. -/
  occurs : ∀ g ∈ gs, g.OccursIn n s
  /-- The slugs are in their order and do not overlap. -/
  before : gs.Pairwise Slug.Before
  /-- Where a slug begins that stands in the text is inside one of the slugs. -/
  covers : ∀ g : Slug, g.OccursIn n s → ∃ h ∈ gs, h.Covers g.start

namespace LeftmostMatches

variable {n : Nat} {s : List Char} {gs gs' : List Slug}

/-- The empty text has no slugs. -/
theorem nil (n : Nat) : LeftmostMatches n [] [] where
  occurs g hg := absurd hg List.not_mem_nil
  before := List.Pairwise.nil
  covers g hg := by
    obtain ⟨-, u, v, hnil, -⟩ := hg
    simp [Spelling.toList, opener] at hnil

/-- A character at which no slug begins is passed over. Nothing is asked about what begins further
on. -/
theorem cons {c : Char} (hnone : ∀ w : Spelling, w.WellFormed → ¬ w.toList <+: c :: s)
    (h : LeftmostMatches (n + c.utf8Size) s gs) : LeftmostMatches n (c :: s) gs where
  occurs g hg := Slug.OccursIn.cons_iff.mpr (Or.inr (h.occurs g hg))
  before := h.before
  covers g hg := by
    rcases Slug.OccursIn.cons_iff.mp hg with ⟨hw, hbegins, -⟩ | hrest
    · exact absurd hbegins (hnone g.spelling hw)
    · exact h.covers g hrest

/-- A slug at the start of a text is the first match, and the search goes on after it. What begins
inside of it is not looked at. -/
theorem slug {w : Spelling} (hw : w.WellFormed)
    (h : LeftmostMatches (n + Text.byteLength w.toList) s gs) :
    LeftmostMatches n (w.toList ++ s) (⟨w, n⟩ :: gs) where
  occurs := by
    rintro g (_ | ⟨_, hg⟩)
    · exact ⟨hw, [], s, rfl, rfl⟩
    · exact (h.occurs g hg).append_left w.toList
  before := List.pairwise_cons.mpr ⟨fun g hg => (h.occurs g hg).le_start, h.before⟩
  covers g hg := by
    rcases Nat.lt_or_ge g.start (n + Text.byteLength w.toList) with hlt | hge
    · exact ⟨⟨w, n⟩, List.mem_cons_self, hg.le_start, hlt⟩
    · obtain ⟨h', hmem, hcovers⟩ := h.covers g (hg.of_append hge)
      exact ⟨h', List.mem_cons_of_mem _ hmem, hcovers⟩

/-- Of two slugs in the list neither covers the start of the other. They stand one after the other
without overlap. -/
theorem eq_of_covers (h : LeftmostMatches n s gs) {g g' : Slug} (hg : g ∈ gs) (hg' : g' ∈ gs)
    (hcovers : g'.Covers g.start) : g = g' := by
  by_contra hne
  have hapart : gs.Pairwise Slug.Apart := h.before.imp Or.inl
  have := g.start_lt_stop
  obtain ⟨hstart, hstop⟩ := hcovers
  rcases hapart.forall hg hg' hne with hbefore | hbefore <;>
    simp only [Slug.Before] at hbefore <;> omega

/-- Of two lists of leftmost matches each is part of the other. This is where the order from left to
right counts. -/
theorem subset (h : LeftmostMatches n s gs) (h' : LeftmostMatches n s gs') : gs ⊆ gs' := by
  intro g hg
  -- By induction on the place: what covers `g` from the left would be in both lists.
  induction hstart : g.start using Nat.strong_induction_on generalizing g gs gs' with
  | _ start ih =>
    obtain ⟨k, hk, hcovers⟩ := h'.covers g (h.occurs g hg)
    rcases Nat.lt_or_ge k.start g.start with hlt | hge
    · have hkgs : k ∈ gs := ih k.start (hstart ▸ hlt) h' h hk rfl
      rw [h.eq_of_covers hg hkgs hcovers]
      exact hk
    · have heq : g.start = k.start := le_antisymm hge hcovers.1
      rw [(h.occurs g hg).eq_of_start_eq (h'.occurs k hk) heq]
      exact hk

/-- A text has at most one list of leftmost matches: both are sorted, and each is part of the
other. -/
theorem unique (h : LeftmostMatches n s gs) (h' : LeftmostMatches n s gs') : gs = gs' :=
  h.before.eq_of_mem_iff h'.before fun _ => ⟨fun hg => h.subset h' hg, fun hg => h'.subset h hg⟩

end LeftmostMatches

/-! ### The search finds the leftmost matches -/

theorem opener_prefix_of_spelling {w : Spelling} {s : List Char} (h : w.toList <+: s) :
    opener <+: s := by
  obtain ⟨v, rfl⟩ := h
  rw [Spelling.toList_append]
  exact List.prefix_append _ _

/-- **The search**: whatever offset a text begins at, the slugs among its passages are its leftmost
matches. -/
theorem leftmostMatches_slugsFrom (n : Nat) (s : List Char) :
    LeftmostMatches n s (slugsFrom n (passages s)) := by
  fun_induction passages s generalizing n with
  | case1 => exact .nil n
  | case2 c rest hopener ih =>
    refine .cons (fun w _ hbegins => ?_) (ih (n + c.utf8Size))
    exact dropPrefix?_eq_none_iff.mp hopener (opener_prefix_of_spelling hbegins)
  | case3 c rest body hopener w after hread ih =>
    obtain ⟨hw, heq⟩ := Spelling.parse?_eq_some_iff.mp hread
    rw [dropPrefix?_eq_some_iff.mp hopener, heq]
    exact .slug hw (ih (n + Text.byteLength w.toList))
  | case4 c rest body hopener hread ih =>
    rw [dropPrefix?_eq_some_iff.mp hopener]
    -- Neither of the two characters of an opener that starts no slug starts one.
    refine .cons (fun w hw hbegins => ?_) (.cons (fun w _ hbegins => ?_) (ih _))
    · obtain ⟨after, heq⟩ := hbegins
      have hsome := Spelling.parse?_eq_some_iff.mpr ⟨hw, heq.symm⟩
      rw [hread] at hsome
      cases hsome
    · have := opener_prefix_of_spelling hbegins
      simp [opener] at this

/-- The slugs of a text are those among its passages. Offsets are added to them and nothing is left
out. -/
theorem mem_map_spelling_slugsFrom {n : Nat} {ps : List Passage} {w : Spelling} :
    w ∈ (slugsFrom n ps).map (·.spelling) ↔ .slug w ∈ ps := by
  induction ps generalizing n with
  | nil => simp [slugsFrom]
  | cons p ps ih =>
    cases p with
    | plain c => simp only [slugsFrom, ih, List.mem_cons, reduceCtorEq, false_or]
    | slug w' => simp only [slugsFrom, List.map_cons, List.mem_cons, ih, Passage.slug.injEq]

/-- **The scanner accepts its grammar**: the slugs of a text are its leftmost matches, and no other
list is. An opener outside of them starts no slug; in one text a slug is settled by its place, with
its scope, its modifier and its inner text; and it names the property that stands in its inner text,
without white space and in lower case. -/
theorem leftmostMatches_scan_and_unique (s : String) :
    (∀ gs, LeftmostMatches 0 s.toList gs ↔ gs = scan s) ∧
    (∀ u v, s.toList = u ++ opener ++ v →
      (∀ g ∈ scan s, ¬ g.Covers (Text.byteLength u)) →
      ∀ w : Spelling, w.WellFormed → ¬ w.toList <+: opener ++ v) ∧
    (∀ g h : Slug, g.OccursIn 0 s.toList → h.OccursIn 0 s.toList → g.start = h.start → g = h) ∧
    (∀ g ∈ scan s,
      g.property.toList = Text.lower (g.spelling.inner.filter (!Text.isBlank ·))) := by
  have hscan : LeftmostMatches 0 s.toList (scan s) := leftmostMatches_slugsFrom 0 s.toList
  refine ⟨fun gs => ⟨fun h => h.unique hscan, fun h => h ▸ hscan⟩, ?_,
    fun g h hg hh => hg.eq_of_start_eq hh, fun g _ => String.toList_ofList⟩
  rintro u v hs houtside w hw ⟨after, hafter⟩
  have hoccurs : Slug.OccursIn ⟨w, Text.byteLength u⟩ 0 s.toList :=
    ⟨hw, u, after, by rw [hs, List.append_assoc, List.append_assoc, hafter], Nat.zero_add _⟩
  obtain ⟨g, hg, hcovers⟩ := hscan.covers _ hoccurs
  exact houtside g hg hcovers

example :
    (scan "\x7b#ent\x7b#attr dt\n(Attribute Type)#\x7d").map (fun g => (g.start, g.property)) =
      [(5, "attributetype")] := by decide +kernel

end Template

end EntityScript
