import EntityScript.Proofs.Generation.Reading
import EntityScript.Proofs.Template.Splicing
import EntityScript.Proofs.Text.Replacement

/-!
# The slugs of the project

A text is read once, from left to right, and divided into the slugs of the project and the
characters between them (`marks`). That misses no slug of the project (`exists_mark_written`): each
of the two begins with a character that it does not hold again, so they never overlap.

The texts of the project are put in one after the other, that for its name first, so an inserted
name could complete a slug for its notes. This cannot happen if the name holds no brace and is no
part of that slug. For a slug in which an inserted name takes part would hold the whole name, as
its first and last characters are braces (`prefix_written_of_prefix_named`).

**Main statement**: with such a name, a text outside of entities gives what stands for its marks,
all of them taken in the text as it was (`literal_replaces_marks`).
-/

namespace EntityScript

namespace Generation

open Template (dropPrefix? dropPrefix?_eq_some_iff dropPrefix?_eq_none_iff)

/-! ### Marks -/

/-- What a text consists of: the slugs of the project, and the characters between them. -/
inductive Mark where
  | plain (c : Char)
  | name
  | notes
deriving DecidableEq

namespace Mark

/-- The mark as it is written. -/
def written : Mark → List Char
  | plain c => [c]
  | name => moduleNameSlug.toList
  | notes => moduleNotesSlug.toList

/-- What stands for the mark after names are put in. -/
def named (c : Config) : Mark → List Char
  | plain d => [d]
  | name => c.moduleName.toList
  | notes => moduleNotesSlug.toList

/-- What stands for the mark in the end. -/
def replaced (c : Config) : Mark → List Char
  | plain d => [d]
  | name => c.moduleName.toList
  | notes => c.moduleNotes.toList

end Mark

/-- The marks of a text, from left to right. -/
def marks (s : List Char) : List Mark :=
  match s with
  | [] => []
  | c :: s =>
    match _named : dropPrefix? moduleNameSlug.toList (c :: s) with
    | some rest => .name :: marks rest
    | none =>
      match _noted : dropPrefix? moduleNotesSlug.toList (c :: s) with
      | some rest => .notes :: marks rest
      | none => .plain c :: marks s
termination_by s.length
decreasing_by
  · have hlength := Template.length_of_dropPrefix? _named
    have hslug : moduleNameSlug.toList.length = 15 := by decide
    omega
  · have hlength := Template.length_of_dropPrefix? _noted
    have hslug : moduleNotesSlug.toList.length = 16 := by decide
    omega
  · exact Nat.lt_succ_self _

/-- The marks of a text are all of it: nothing is dropped between them. The induction is that of
reading the marks. -/
theorem flatMap_written_marks (s : List Char) : (marks s).flatMap Mark.written = s := by
  fun_induction marks s with
  | case1 => rfl
  | case2 c s rest hname ih =>
    rw [List.flatMap_cons, ih]
    exact (dropPrefix?_eq_some_iff.mp hname).symm
  | case3 c s _ rest hnotes ih =>
    rw [List.flatMap_cons, ih]
    exact (dropPrefix?_eq_some_iff.mp hnotes).symm
  | case4 c s _ _ ih =>
    rw [List.flatMap_cons, ih]
    rfl

/-! ### The slugs and their occurrences -/

/-- The slug for the name begins with a brace, which it does not hold again. So two of its
occurrences cannot overlap. -/
theorem toList_moduleNameSlug :
    moduleNameSlug.toList = '\x7b' :: "#module_name#\x7d".toList := by decide

/-- The slug for the notes begins with a brace, which it does not hold again. -/
theorem toList_moduleNotesSlug :
    moduleNotesSlug.toList = '\x7b' :: "#module_notes#\x7d".toList := by decide

theorem singleton_ne_slug (d : Char) :
    [d] ≠ moduleNameSlug.toList ∧ [d] ≠ moduleNotesSlug.toList := by
  rw [toList_moduleNameSlug, toList_moduleNotesSlug]
  simp

theorem not_name_beginsIn_notes (rest : List Char) :
    ¬ Text.BeginsIn moduleNameSlug.toList moduleNotesSlug.toList rest := by
  rw [toList_moduleNameSlug, toList_moduleNotesSlug, Text.beginsIn_cons_iff, not_or]
  exact ⟨by simp, Text.not_beginsIn_of_not_mem (by decide)⟩

theorem not_notes_beginsIn_name (rest : List Char) :
    ¬ Text.BeginsIn moduleNotesSlug.toList moduleNameSlug.toList rest := by
  rw [toList_moduleNameSlug, toList_moduleNotesSlug, Text.beginsIn_cons_iff, not_or]
  exact ⟨by simp, Text.not_beginsIn_of_not_mem (by decide)⟩

/-- A text that does not begin at a character does not begin in it, as nothing is left of a single
character. -/
theorem not_beginsIn_singleton {p rest : List Char} {c : Char} (h : ¬ p <+: c :: rest) :
    ¬ Text.BeginsIn p [c] rest := by
  rw [Text.beginsIn_cons_iff, not_or]
  exact ⟨h, Text.not_beginsIn_nil⟩

/-- **Every slug for the name is a mark.** No such slug begins inside a mark of another kind, be it
a slug for the notes or a character. -/
theorem isDivided_name (s : List Char) :
    Text.IsDivided moduleNameSlug.toList ((marks s).map Mark.written) := by
  fun_induction marks s with
  | case1 => trivial
  | case2 c s rest _ ih => exact ⟨Or.inl rfl, ih⟩
  | case3 c s _ rest _ ih => exact ⟨Or.inr (not_name_beginsIn_notes _), ih⟩
  | case4 c s hname _ ih =>
    refine ⟨Or.inr (not_beginsIn_singleton ?_), ih⟩
    rw [← List.flatMap_def, flatMap_written_marks]
    exact dropPrefix?_eq_none_iff.mp hname

/-- **Every slug for the notes is a mark.** The argument is that for the name with the two slugs
changed about. -/
theorem isDivided_notes (s : List Char) :
    Text.IsDivided moduleNotesSlug.toList ((marks s).map Mark.written) := by
  fun_induction marks s with
  | case1 => trivial
  | case2 c s rest _ ih => exact ⟨Or.inr (not_notes_beginsIn_name _), ih⟩
  | case3 c s _ rest _ ih => exact ⟨Or.inl rfl, ih⟩
  | case4 c s _ hnotes ih =>
    refine ⟨Or.inr (not_beginsIn_singleton ?_), ih⟩
    rw [← List.flatMap_def, flatMap_written_marks]
    exact dropPrefix?_eq_none_iff.mp hnotes

/-! ### Inserted names -/

/-- The name of the project holds no brace and is no part of the slug for its notes. -/
structure HasPlainName (c : Config) : Prop where
  no_opening : '\x7b' ∉ c.moduleName.toList
  no_closing : '\x7d' ∉ c.moduleName.toList
  not_infix : ¬ c.moduleName.toList <:+: moduleNotesSlug.toList

namespace HasPlainName

variable {c : Config} (h : HasPlainName c)

include h

theorem name_ne : c.moduleName.toList ≠ moduleNotesSlug.toList := fun heq =>
  h.not_infix (heq ▸ List.infix_rfl)

/-- **Names complete no slug**: what ends as the slug for the notes does, and begins a text after
names are put in, begins the text as it was written. The induction is on the marks, along which the
end of the slug becomes shorter. -/
theorem prefix_written_of_prefix_named {x : List Char} {ms : List Mark}
    (hx : x <:+ moduleNotesSlug.toList) (hbegins : x <+: ms.flatMap (Mark.named c)) :
    x <+: ms.flatMap Mark.written := by
  induction ms generalizing x with
  | nil => exact hbegins
  | cons m ms ih =>
    cases x with
    | nil => exact List.nil_prefix
    | cons d x =>
      rw [List.flatMap_cons] at hbegins ⊢
      cases m with
      | plain e =>
        obtain ⟨rfl, hrest⟩ := List.cons_prefix_cons.mp hbegins
        exact List.cons_prefix_cons.mpr ⟨rfl, ih ((List.suffix_cons d x).trans hx) hrest⟩
      | name =>
        -- The name would hold the last character of the slug, or the slug would hold the name.
        rcases List.prefix_or_prefix_of_prefix hbegins (List.prefix_append _ _) with hle | hle
        · have hlast : '\x7d' ∈ d :: x := by
            obtain ⟨y, hy⟩ := hx
            have hget := congrArg List.getLast? hy
            rw [List.getLast?_append_of_ne_nil _ (List.cons_ne_nil d x)] at hget
            exact List.mem_of_getLast? (hget.trans (by decide))
          exact absurd (hle.subset hlast) h.no_closing
        · exact absurd (hle.isInfix.trans hx.isInfix) h.not_infix
      | notes =>
        have hle := List.prefix_of_prefix_length_le hbegins (List.prefix_append _ _) hx.length_le
        exact hle.trans (List.prefix_append _ _)

/-- A text with names put in is divided at the slugs for the notes that it had before. So the second
replacement finds the marks that the text was written with. -/
theorem isDivided_named {ms : List Mark}
    (hms : Text.IsDivided moduleNotesSlug.toList (ms.map Mark.written)) :
    Text.IsDivided moduleNotesSlug.toList (ms.map (Mark.named c)) := by
  induction ms with
  | nil => trivial
  | cons m ms ih =>
    obtain ⟨hfirst, hrest⟩ := hms
    refine ⟨?_, ih hrest⟩
    cases m with
    | plain d =>
      -- A notes slug that began at this character would, with the names written back as marks,
      -- begin there in the text as written too.
      refine Or.inr (not_beginsIn_singleton fun hbegins => ?_)
      have hwritten : moduleNotesSlug.toList <+: d :: ms.flatMap Mark.written :=
        @prefix_written_of_prefix_named c h _ (.plain d :: ms) List.suffix_rfl hbegins
      rcases hfirst with heq | hnone
      · exact absurd heq (singleton_ne_slug d).2
      · exact hnone (Text.beginsIn_cons_iff.mpr (Or.inl hwritten))
    | name =>
      -- The name has no opening brace, with which every slug begins.
      rw [toList_moduleNotesSlug]
      exact Or.inr (Text.not_beginsIn_of_not_mem h.no_opening)
    | notes => exact Or.inl rfl

end HasPlainName

/-! ### One replacement after the other -/

/-- Putting in the name replaces the marks for the name, and leaves all others as they are. No plain
name is needed for this, as the text is still the one that was written. -/
theorem replace_moduleNameSlug (c : Config) (s : List Char) :
    Text.replace moduleNameSlug.toList c.moduleName.toList s =
      (marks s).flatMap (Mark.named c) := by
  have hs : s = ((marks s).map Mark.written).flatten := by
    rw [← List.flatMap_def, flatMap_written_marks]
  have hmark : ∀ m : Mark, (if m.written = moduleNameSlug.toList then c.moduleName.toList
      else m.written) = m.named c := by
    intro m
    cases m with
    | plain d => exact if_neg (singleton_ne_slug d).1
    | name => exact if_pos rfl
    | notes => exact if_neg (by decide)
  conv_lhs => rw [hs]
  rw [Text.replace_flatten (by decide) (isDivided_name s), List.map_map, ← List.flatMap_def]
  exact List.flatMap_congr fun m _ => hmark m

/-- **One replacement after the other** replaces the marks of the text as it was. For the second
replacement the text is not the one that was written, which is where the plain name is needed. -/
theorem HasPlainName.replaceProjectSlugs_eq {c : Config} (h : HasPlainName c) (s : List Char) :
    replaceProjectSlugs c s = (marks s).flatMap (Mark.replaced c) := by
  have hmark : ∀ m : Mark, (if m.named c = moduleNotesSlug.toList then c.moduleNotes.toList
      else m.named c) = m.replaced c := by
    intro m
    cases m with
    | plain d => exact if_neg (singleton_ne_slug d).2
    | name => exact if_neg h.name_ne
    | notes => exact if_pos rfl
  rw [replaceProjectSlugs, replace_moduleNameSlug, List.flatMap_def,
    Text.replace_flatten (by decide) (h.isDivided_named (isDivided_notes s)), List.map_map,
    ← List.flatMap_def]
  exact List.flatMap_congr fun m _ => hmark m

/-! ### Places of marks -/

/-- Where the texts that stand for marks are divided at one of these texts, each of its occurrences
stands for a mark. This carries an occurrence in the text over to a place among the marks. -/
theorem exists_mark {f : Mark → List Char} {ms : List Mark} {m : Mark} {d : Char}
    {p u v : List Char} (hm : f m = d :: p) (hp : d ∉ p) (hunique : ∀ m', f m' = f m → m' = m)
    (hdivided : Text.IsDivided (f m) (ms.map f)) (heq : ms.flatMap f = u ++ (f m ++ v)) :
    ∃ before after, ms = before ++ m :: after ∧ before.flatMap f = u ∧ after.flatMap f = v := by
  rw [hm] at hdivided heq
  rw [List.flatMap_def] at heq
  obtain ⟨xs, ys, hmap, hxs, hys⟩ := hdivided.exists_of_flatten_eq hp heq
  obtain ⟨before, rest, rfl, rfl, hrest⟩ := List.map_eq_append_iff.mp hmap
  obtain ⟨m', after, rfl, hm', rfl⟩ := List.map_eq_cons_iff.mp hrest
  obtain rfl := hunique m' (hm'.trans hm.symm)
  exact ⟨before, after, rfl, hxs, hys⟩

/-- **No slug is missed**: the slugs of the project that stand in a text are its marks, with what
stands before and behind each of them. -/
theorem exists_mark_written {s u v : List Char} {m : Mark} (hm : m ∈ [Mark.name, Mark.notes])
    (hs : s = u ++ (m.written ++ v)) :
    ∃ before after, marks s = before ++ m :: after ∧ before.flatMap Mark.written = u ∧
      after.flatMap Mark.written = v := by
  have hne : moduleNameSlug.toList ≠ moduleNotesSlug.toList := by decide
  rw [← flatMap_written_marks s] at hs
  rcases List.mem_cons.mp hm with rfl | hm
  · refine exists_mark toList_moduleNameSlug (by decide) (fun m' heq => ?_) (isDivided_name s) hs
    cases m' with
    | plain d => exact absurd heq (singleton_ne_slug d).1
    | name => rfl
    | notes => exact absurd heq.symm hne
  · obtain rfl := List.mem_singleton.mp hm
    refine exists_mark toList_moduleNotesSlug (by decide) (fun m' heq => ?_) (isDivided_notes s) hs
    cases m' with
    | plain d => exact absurd heq (singleton_ne_slug d).2
    | name => exact absurd heq hne
    | notes => rfl

/-- **No slug is made**: the slugs for the notes that stand in a text with names put in are the
marks of the text. -/
theorem HasPlainName.exists_mark_named {c : Config} (h : HasPlainName c) {s u v : List Char}
    (hs : (marks s).flatMap (Mark.named c) = u ++ (moduleNotesSlug.toList ++ v)) :
    ∃ before after, marks s = before ++ .notes :: after ∧
      before.flatMap (Mark.named c) = u ∧ after.flatMap (Mark.named c) = v := by
  refine exists_mark (m := .notes) toList_moduleNotesSlug (by decide) (fun m' heq => ?_)
    (h.isDivided_named (isDivided_notes s)) hs
  cases m' with
  | plain d => exact absurd heq (singleton_ne_slug d).2
  | name => exact absurd heq h.name_ne
  | notes => rfl

/-! ### Texts outside of entities -/

/-- Without a record to read from, the passages of a text are copied, slugs as well as
characters. -/
theorem expandPassages_outside (ps : List Template.Passage) :
    expandPassages {} ps = pure (ps.flatMap Template.Passage.toList) := by
  induction ps with
  | nil => rfl
  | cons p ps ih =>
    cases p with
    | plain d => rw [expandPassages, ih]; rfl
    | slug w =>
      have hslug : expandSlug {} w = pure w.toList := by
        cases hscope : w.scope <;> simp only [expandSlug, Scopes.value?, hscope, Option.map_none]
      rw [expandPassages, ih, hslug]
      rfl

theorem expand_outside (c : Config) (text : String) :
    expand c {} text = pure (String.ofList (replaceProjectSlugs c text.toList)) := by
  rw [expand, expandPassages_outside, Template.flatMap_toList_passages]
  rfl

/-- **The slugs of the project are replaced at once.** The marks of a text are all of it, and no
slug of the project stands anywhere else in it. If the name of the project holds no brace and is no
part of the slug for the notes, then a literal outside of entities gives what stands for its marks:
the name and the notes for those that are slugs, and each other character for itself. Where the name
is put in first, the slugs for the notes that there are then are the marks that there were. -/
theorem literal_replaces_marks (job : Job) (text : String) (h : HasPlainName job.config) :
    let ms := marks text.toList
    ms.flatMap Mark.written = text.toList ∧
    (∀ m ∈ [Mark.name, Mark.notes], ∀ u v, text.toList = u ++ (m.written ++ v) →
      ∃ before after, ms = before ++ m :: after ∧ before.flatMap Mark.written = u ∧
        after.flatMap Mark.written = v) ∧
    (∀ u v, Text.replace moduleNameSlug.toList job.config.moduleName.toList text.toList =
        u ++ (moduleNotesSlug.toList ++ v) ↔
      ∃ before after, ms = before ++ .notes :: after ∧
        before.flatMap (Mark.named job.config) = u ∧ after.flatMap (Mark.named job.config) = v) ∧
    (job.node none (.literal text)).outcome =
      .ok (String.ofList (ms.flatMap (Mark.replaced job.config))) := by
  intro ms
  refine ⟨flatMap_written_marks text.toList, fun m hm u v hs => exists_mark_written hm hs,
    fun u v => ?_, ?_⟩
  · rw [replace_moduleNameSlug]
    refine ⟨h.exists_mark_named, ?_⟩
    -- A notes mark of the text stays one when the names before and after it are filled in.
    rintro ⟨before, after, hms, rfl, rfl⟩
    rw [show marks text.toList = _ from hms, List.flatMap_append, List.flatMap_cons]
    rfl
  · rw [Job.node, Run.outcome_bind, expand_outside, h.replaceProjectSlugs_eq]
    rfl

/-- A name that is put in between the halves of a slug for the notes, and notes that look like a
slug for the name. -/
theorem literal_replaces_marks_nested :
    let job : Job :=
      ⟨{ moduleName := "x", moduleNotes := "\x7b#module_name#\x7d" }, [], false⟩
    let text := "\x7b#mod\x7b#module_name#\x7de_notes#\x7d\x7b#module_notes#\x7d"
    HasPlainName job.config ∧
      marks text.toList = "\x7b#mod".toList.map .plain ++
        .name :: ("e_notes#\x7d".toList.map .plain ++ [.notes]) ∧
      (job.node none (.literal text)).outcome =
        .ok "\x7b#modxe_notes#\x7d\x7b#module_name#\x7d" := by
  intro job text
  have hname : HasPlainName job.config := by
    refine ⟨by decide, by decide, fun h => ?_⟩
    have hmem : 'x' ∈ job.config.moduleName.toList := by decide
    exact absurd (h.subset hmem) (by decide)
  have hmarks : marks text.toList = "\x7b#mod".toList.map .plain ++
      .name :: ("e_notes#\x7d".toList.map .plain ++ [.notes]) := by decide +kernel
  obtain ⟨-, -, -, houtcome⟩ := literal_replaces_marks job text hname
  have hreplaced : String.ofList ((marks text.toList).flatMap (Mark.replaced job.config)) =
      "\x7b#modxe_notes#\x7d\x7b#module_name#\x7d" := by
    rw [hmarks]
    decide +kernel
  exact ⟨hname, hmarks, houtcome.trans (congrArg Except.ok hreplaced)⟩

/-- A name that is a part of the slug for the notes can complete it. -/
example :
    replaceProjectSlugs { moduleName := "e_not", moduleNotes := "N" }
      "\x7b#modul\x7b#module_name#\x7des#\x7d".toList = ['N'] := by decide +kernel

end Generation

end EntityScript
