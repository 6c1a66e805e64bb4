import EntityScript.Proofs.Template.Splicing
import EntityScript.Proofs.Text.Slices

/-!
# Slugs by their offsets

The places of slugs are byte offsets, at which texts are cut. Here the slugs of a text are looked
for in that way (`cutouts?`): the search knows offsets only, every part of the text that it looks at
is cut out of it (`Text.slice?`), and the end of a slug is counted backwards, from the length of
what remains of the text. A cut anywhere but between characters, or a search that does not end,
would leave no result. There is always one, and it is the slugs of `scan` (`cutouts?_eq`).

Texts are put in at offsets as well (`spliceSlices?`), for any choice of the slugs, and again no cut
fails (`exists_spliceSlices?`).

**Main statement**: the offsets of slugs lie between characters and in their order, and whoever cuts
a text at them has the slugs as they are written, and with what stands between them the whole text
(`scan_offsets`).
-/

namespace EntityScript

namespace Template

/-! ### The search by offsets -/

/-- What the search by offsets tells of a slug. -/
structure Cutout where
  raw : String
  scope : SlugScope
  modifier : Modifier
  property : String
  start : Nat
  stop : Nat
deriving DecidableEq

/-- What there is to tell of a slug. -/
def Slug.cutout (g : Slug) : Cutout :=
  ⟨g.raw, g.scope, g.modifier, g.property, g.start, g.stop⟩

/-- What a slug begins with up to its parenthesis: its scope, its modifier, what stands after the
parenthesis, and the offset in it of the closer. -/
def readBody (s : List Char) : Option (SlugScope × Modifier × List Char × Nat) := do
  let (scope, s) ← readScope s
  let m := readModifier scope (Text.trimStart s)
  let body ← dropPrefix? ['('] m.2.2
  let close ← Text.find? closer body
  some (scope, m.1, body, close)

/-- Reads the slug of which the opener stands at an offset. No result at all is a cut that
failed. -/
def cutoutAt? (s : String) (start : Nat) : Option (Option Cutout) := do
  let rest ← Text.slice? s (start + Text.byteLength opener) s.utf8ByteSize
  match readBody rest.toList with
  | none => some none
  | some (scope, modifier, body, close) =>
    let inner ← Text.slice? (String.ofList body) 0 close
    if inner.toList.contains '\n' then some none
    else
      let stop := s.utf8ByteSize - Text.byteLength body + close + Text.byteLength closer
      let raw ← Text.slice? s start stop
      let property := String.ofList (Text.lower (inner.toList.filter (!Text.isBlank ·)))
      some (some ⟨raw, scope, modifier, property, start, stop⟩)

/-- The slugs from an offset on; after an opener that starts none the search goes on behind it. No
result is a cut that failed, or a search of more than so many openers. -/
def cutoutsFrom? (s : String) : Nat → Nat → Option (List Cutout)
  | 0, _ => none
  | fuel + 1, pos => do
    let rest ← Text.slice? s pos s.utf8ByteSize
    match Text.find? opener rest.toList with
    | none => some []
    | some offset =>
      match ← cutoutAt? s (pos + offset) with
      | some k => (k :: ·) <$> cutoutsFrom? s fuel k.stop
      | none => cutoutsFrom? s fuel (pos + offset + Text.byteLength opener)

/-- The slugs of a text. -/
def cutouts? (s : String) : Option (List Cutout) :=
  cutoutsFrom? s (s.length + 1) 0

/-! ### One slug -/

/-- A text is divided by its first closer at the offset of the first closer. The search counts
bytes, and the reader takes characters off. -/
theorem find?_closer (s : List Char) :
    Text.find? closer s = (splitAtCloser s).map (Text.byteLength ·.1) := by
  induction s with
  | nil => rfl
  | cons c s ih =>
    simp only [Text.find?, splitAtCloser, dropPrefix?]
    split
    · rfl
    · rw [ih]
      cases splitAtCloser s <;> rfl

/-- Where no slug begins up to its parenthesis and its closer, none is read. The converse fails, as
its inner text may still have a line feed. -/
theorem parse?_eq_none_of_readBody {t : List Char} (h : readBody t = none) :
    Spelling.parse? t = none := by
  simp only [readBody, find?_closer, Option.bind_eq_bind, Option.bind_eq_none_iff,
    Option.map_eq_some_iff, Prod.forall, Prod.exists] at h
  rw [Option.eq_none_iff_forall_ne_some]
  rintro ⟨w, rest⟩ hread
  simp only [Spelling.parse?, Option.bind_eq_bind, Option.bind_eq_some_iff, Prod.exists] at hread
  obtain ⟨scope, s, hscope, body, hbody, inner, rest', hinner, -⟩ := hread
  exact absurd (h scope s hscope body hbody _ ⟨inner, rest', hinner, rfl⟩) (Option.some_ne_none _)

/-- Where a slug begins, it is read, unless a line ends in its inner text. All that is told of it
agrees with what is read. -/
theorem exists_parse?_of_readBody {t body : List Char} {scope : SlugScope} {m : Modifier}
    {close : Nat} (h : readBody t = some (scope, m, body, close)) :
    ∃ w rest, w.scope = scope ∧ w.modifier = m ∧ body = w.inner ++ (closer ++ rest) ∧
      close = Text.byteLength w.inner ∧
      Spelling.parse? t = if w.inner.contains '\n' then none else some (w, rest) := by
  simp only [readBody, find?_closer, Option.bind_eq_bind, Option.bind_eq_some_iff,
    Option.map_eq_some_iff, Prod.exists, Option.some.injEq, Prod.mk.injEq] at h
  obtain ⟨scope, s, hscope, body, hbody, _, ⟨inner, rest, hinner, rfl⟩, rfl, rfl, rfl, rfl⟩ := h
  refine ⟨⟨_, s.takeWhile Text.isBlank, _, (readModifier scope (Text.trimStart s)).2.1, inner⟩,
    rest, rfl, rfl, (splitAtCloser_eq_some_iff.mp hinner).1, rfl, ?_⟩
  simp only [Spelling.parse?, Option.bind_eq_bind, hscope, Option.bind_some, hbody, hinner]

/-- **A slug is cut out as it is read**, and nothing is where none is read. Each of the cuts is at
an offset between characters, and so gives a text. -/
theorem cutoutAt?_eq {s : String} {u t : List Char} (h : s.toList = u ++ (opener ++ t)) :
    cutoutAt? s (Text.byteLength u) =
      some ((Spelling.parse? t).map fun (w, _) => Slug.cutout ⟨w, Text.byteLength u⟩) := by
  have hafter : Text.slice? s (Text.byteLength u + Text.byteLength opener) s.utf8ByteSize =
      some (String.ofList t) := by
    rw [← Text.byteLength_append]
    exact Text.slice?_utf8ByteSize_eq (by rw [h, List.append_assoc])
  simp only [cutoutAt?, hafter, Option.bind_eq_bind, Option.bind_some, String.toList_ofList]
  cases hread : readBody t with
  | none => rw [parse?_eq_none_of_readBody hread, Option.map_none]
  | some r =>
    obtain ⟨scope, m, body, close⟩ := r
    obtain ⟨w, rest, rfl, rfl, rfl, rfl, hparse⟩ := exists_parse?_of_readBody hread
    -- The byte offsets of the spelling's parts are prefix lengths, so every slice falls on a
    -- boundary.
    have hinner : Text.slice? (String.ofList (w.inner ++ (closer ++ rest))) 0
        (Text.byteLength w.inner) = some (String.ofList w.inner) := by
      rw [← Nat.zero_add (Text.byteLength w.inner)]
      exact Text.slice?_eq (u := []) String.toList_ofList
    simp only [hinner, Option.bind_some, String.toList_ofList, hparse]
    split
    · rfl
    · next hline =>
      rw [if_neg hline] at hparse
      have hs : s.toList = u ++ (w.toList ++ rest) := by
        rw [h, (Spelling.parse?_eq_some_iff.mp hparse).2]
      have hstop : s.utf8ByteSize - Text.byteLength (w.inner ++ (closer ++ rest)) +
          Text.byteLength w.inner + Text.byteLength closer =
            Text.byteLength u + Text.byteLength w.toList := by
        simp only [Text.utf8ByteSize_eq, hs, Spelling.toList, Text.byteLength_append,
          Text.byteLength_cons]
        omega
      rw [hstop, Text.slice?_eq hs]
      rfl

/-! ### All slugs -/

section

variable {s : String} {u t : List Char} (h : s.toList = u ++ t)

include h

theorem cutoutsFrom?_of_find?_eq_none (hfind : Text.find? opener t = none) (fuel : Nat) :
    cutoutsFrom? s (fuel + 1) (Text.byteLength u) = some [] := by
  simp only [cutoutsFrom?, Text.slice?_utf8ByteSize_eq h, Option.bind_eq_bind, Option.bind_some,
    String.toList_ofList, hfind]

/-- The search goes on at the first opener: behind the slug there, or behind the opener if it starts
none. -/
theorem cutoutsFrom?_of_find?_eq_some {offset : Nat} (hfind : Text.find? opener t = some offset)
    (fuel : Nat) :
    cutoutsFrom? s (fuel + 1) (Text.byteLength u) =
      (cutoutAt? s (Text.byteLength u + offset)).bind fun
        | some k => (k :: ·) <$> cutoutsFrom? s fuel k.stop
        | none =>
          cutoutsFrom? s fuel (Text.byteLength u + offset + Text.byteLength opener) := by
  simp only [cutoutsFrom?, Text.slice?_utf8ByteSize_eq h, Option.bind_eq_bind, Option.bind_some,
    String.toList_ofList, hfind]

end

/-- A character at which no opener stands is passed over. The next opener is then found at the same
place of the text. -/
theorem cutoutsFrom?_cons {s : String} {u t : List Char} {c : Char} (h : s.toList = u ++ c :: t)
    (hopener : ¬ opener <+: c :: t) (fuel : Nat) :
    cutoutsFrom? s (fuel + 1) (Text.byteLength u) =
      cutoutsFrom? s (fuel + 1) (Text.byteLength (u ++ [c])) := by
  have h' : s.toList = (u ++ [c]) ++ t := by rw [h, List.append_assoc, List.singleton_append]
  have hfind := Text.find?_of_not_prefix hopener
  cases hrest : Text.find? opener t with
  | none =>
    rw [cutoutsFrom?_of_find?_eq_none h' hrest,
      cutoutsFrom?_of_find?_eq_none h (by rw [hfind, hrest, Option.map_none])]
  | some offset =>
    rw [cutoutsFrom?_of_find?_eq_some h' hrest,
      cutoutsFrom?_of_find?_eq_some h (by rw [hfind, hrest, Option.map_some])]
    simp only [Text.byteLength_append, Text.byteLength_cons, Text.byteLength_nil, Nat.add_zero,
      Nat.add_assoc]

/-- **The search by offsets finds the slugs of a text**: from an offset between characters on no
cut fails, the search ends, and it tells of each slug what there is to tell. -/
theorem cutoutsFrom?_eq {s : String} {u t : List Char} {fuel : Nat} (h : s.toList = u ++ t)
    (hfuel : t.length < fuel) :
    cutoutsFrom? s fuel (Text.byteLength u) =
      some ((slugsFrom (Text.byteLength u) (passages t)).map Slug.cutout) := by
  -- `passages` goes on character by character, the search from opener to opener: the characters
  -- between are passed over without fuel.
  fun_induction passages t generalizing u fuel with
  | case1 =>
    obtain ⟨fuel, rfl⟩ := Nat.exists_eq_add_one_of_ne_zero (Nat.ne_zero_of_lt hfuel)
    exact cutoutsFrom?_of_find?_eq_none h rfl fuel
  | case2 c rest hopener ih =>
    obtain ⟨fuel, rfl⟩ := Nat.exists_eq_add_one_of_ne_zero (Nat.ne_zero_of_lt hfuel)
    have h' : s.toList = (u ++ [c]) ++ rest := by
      rw [h, List.append_assoc, List.singleton_append]
    rw [cutoutsFrom?_cons h (dropPrefix?_eq_none_iff.mp hopener), ih h' (Nat.lt_of_succ_lt hfuel),
      slugsFrom, Text.byteLength_append]
    rfl
  | case3 c rest body hopener w after hread ih =>
    obtain ⟨fuel, rfl⟩ := Nat.exists_eq_add_one_of_ne_zero (Nat.ne_zero_of_lt hfuel)
    have hrest := dropPrefix?_eq_some_iff.mp hopener
    have hlength := length_parse? hread
    have h' : s.toList = (u ++ w.toList) ++ after := by
      rw [h, hrest, (Spelling.parse?_eq_some_iff.mp hread).2, List.append_assoc]
    have hfind := Text.find?_of_prefix ⟨body, hrest.symm⟩
    have hfuel' : after.length < fuel := by
      rw [hrest, List.length_append] at hfuel
      omega
    rw [cutoutsFrom?_of_find?_eq_some h hfind, Nat.add_zero, cutoutAt?_eq (hrest ▸ h), hread,
      Option.map_some, Option.bind_some]
    have hgoesOn := ih h' hfuel'
    rw [Text.byteLength_append] at hgoesOn
    exact congrArg ((Slug.cutout ⟨w, Text.byteLength u⟩ :: ·) <$> ·) hgoesOn
  | case4 c rest body hopener hread ih =>
    obtain ⟨fuel, rfl⟩ := Nat.exists_eq_add_one_of_ne_zero (Nat.ne_zero_of_lt hfuel)
    have hrest := dropPrefix?_eq_some_iff.mp hopener
    have h' : s.toList = (u ++ opener) ++ body := by rw [h, hrest, List.append_assoc]
    have hfind := Text.find?_of_prefix ⟨body, hrest.symm⟩
    have hfuel' : body.length < fuel := by
      rw [hrest, List.length_append] at hfuel
      simp only [opener, List.length_cons] at hfuel
      omega
    rw [cutoutsFrom?_of_find?_eq_some h hfind, Nat.add_zero, cutoutAt?_eq (hrest ▸ h), hread,
      Option.map_none, Option.bind_some, ← Text.byteLength_append, ih h' hfuel',
      Text.byteLength_append]
    rfl

theorem cutouts?_eq (s : String) : cutouts? s = some ((scan s).map Slug.cutout) :=
  cutoutsFrom?_eq (u := []) rfl (by rw [String.length_toList]; exact Nat.lt_succ_self _)

/-! ### Putting texts in at offsets -/

/-- The text with some of its slugs replaced, all cut at offsets: what stands from the offset up to
each of the slugs is copied, and so is what stands after the last one. -/
def spliceSlices? (s : String) : Nat → List (Slug × String) → Option String
  | last, [] => Text.slice? s last s.utf8ByteSize
  | last, (g, text) :: edits => do
    let gap ← Text.slice? s last g.start
    let rest ← spliceSlices? s g.stop edits
    some (gap ++ text ++ rest)

/-- **No cut fails** for slugs that occur in a text, one after the other, whatever is put in. The
text that results is the one text that splicing gives. -/
theorem exists_spliceSlices? {s : String} {u t : List Char} {edits : List (Slug × String)}
    (h : s.toList = u ++ t) (hoccurs : ∀ e ∈ edits, e.1.OccursIn (Text.byteLength u) t)
    (hbefore : edits.Pairwise fun e e' => e.1.Before e'.1) :
    ∃ result, spliceSlices? s (Text.byteLength u) edits = some result ∧
      Splices (Text.byteLength u) t edits result.toList := by
  induction edits generalizing u t with
  | nil =>
    refine ⟨String.ofList t, Text.slice?_utf8ByteSize_eq h, ?_⟩
    rw [String.toList_ofList]
    exact .nil
  | cons e edits ih =>
    obtain ⟨g, text⟩ := e
    obtain ⟨hg, hrest⟩ := List.forall_mem_cons.mp hoccurs
    obtain ⟨hfirst, hbefore⟩ := List.pairwise_cons.mp hbefore
    obtain ⟨-, gap, rest, rfl, hstart⟩ := id hg
    -- The next slice starts where this slug stops, which the induction takes as its new prefix.
    have hstop : Text.byteLength (u ++ (gap ++ g.spelling.toList)) = g.stop := by
      rw [Text.byteLength_append, Text.byteLength_append, ← Nat.add_assoc, hstart]
      rfl
    have hafter : ∀ e ∈ edits,
        e.1.OccursIn (Text.byteLength (u ++ (gap ++ g.spelling.toList))) rest := by
      intro e he
      rw [Text.byteLength_append]
      refine (hrest e he).of_append ?_
      rw [← Text.byteLength_append, hstop]
      exact hfirst e he
    obtain ⟨result, hresult, hsplices⟩ := ih (by rw [h, List.append_assoc u]) hafter hbefore
    rw [hstop] at hresult hsplices
    rw [List.append_assoc] at h
    refine ⟨String.ofList gap ++ text ++ result, ?_, ?_⟩
    · rw [spliceSlices?, ← hstart, Text.slice?_eq h, hresult]
      rfl
    · simp only [String.toList_append, String.toList_ofList, List.append_assoc]
      exact .cons rfl hstart hsplices

/-- Slugs that are put in for themselves leave the text as it is. So nothing between them is
lost. -/
theorem Splices.eq_of_raw {n : Nat} {s result : List Char} {edits : List (Slug × String)}
    (h : Splices n s edits result) (hraw : ∀ e ∈ edits, e.2 = e.1.raw) : result = s := by
  induction h with
  | nil => rfl
  | @cons _ _ gap rest result g text edits splits _ _ ih =>
    obtain ⟨htext, hedits⟩ := List.forall_mem_cons.mp hraw
    have hwritten : text.toList = g.spelling.toList :=
      (congrArg String.toList htext).trans String.toList_ofList
    rw [splits, ih hedits, hwritten]

/-! ### Offsets -/

/-- The slug can be cut out of the text at its offsets. -/
structure Slug.CutsOut (g : Slug) (s : String) : Prop where
  start_isValid : String.Pos.Raw.IsValid s ⟨g.start⟩
  stop_isValid : String.Pos.Raw.IsValid s ⟨g.stop⟩
  start_lt_stop : g.start < g.stop
  stop_le : g.stop ≤ s.utf8ByteSize
  slice?_eq : Text.slice? s g.start g.stop = some g.raw
  opener_keyword_prefix : opener ++ g.scope.keyword.toList <+: g.raw.toList
  closer_suffix : closer <:+ g.raw.toList

/-- A slug that occurs in a text can be cut out of it, as both of its offsets lie between
characters. -/
theorem Slug.OccursIn.cutsOut {g : Slug} {s : String} (h : g.OccursIn 0 s.toList) :
    g.CutsOut s := by
  obtain ⟨-, u, v, hs, hstart⟩ := id h
  rw [Nat.zero_add] at hstart
  have hstop : Text.byteLength (u ++ g.spelling.toList) = g.stop := by
    rw [Text.byteLength_append, hstart]
    rfl
  rw [List.append_assoc] at hs
  have hraw : g.raw.toList = g.spelling.toList := String.toList_ofList
  refine ⟨Text.isValid_iff.mpr ⟨u, _, hs, hstart⟩,
    Text.isValid_iff.mpr ⟨_, v, by rw [hs, List.append_assoc], hstop⟩, g.start_lt_stop, ?_, ?_, ?_,
    ?_⟩
  · rw [Text.utf8ByteSize_eq, hs, ← List.append_assoc, Text.byteLength_append, hstop]
    exact Nat.le_add_right _ _
  · rw [← hstart, ← hstop, Text.byteLength_append, Text.slice?_eq hs]
    rfl
  · rw [hraw, ← List.append_nil g.spelling.toList, Spelling.toList_append, ← List.append_assoc]
    exact List.prefix_append _ _
  · rw [hraw, Spelling.toList]
    exact List.suffix_append _ _

/-- **Offsets are safe to cut at**: the search by offsets ends, with the slugs of the text and no
cut that failed. Each of them can be cut out at its offsets, which gives the slug as it is written,
and they stand one after the other. What is cut out between them, with the slugs as they are
written, is the whole text; and to replace any of them, by whatever texts, no cut fails either. -/
theorem scan_offsets (s : String) :
    cutouts? s = some ((scan s).map Slug.cutout) ∧
    (∀ g ∈ scan s, g.CutsOut s) ∧
    (scan s).Pairwise (fun g h => g.stop ≤ h.start ∧ h.start < h.stop) ∧
    spliceSlices? s 0 ((scan s).map fun g => (g, g.raw)) = some s ∧
    ∀ edits : List (Slug × String), (edits.map Prod.fst).Sublist (scan s) →
      ∃ result, spliceSlices? s 0 edits = some result ∧
        Splices 0 s.toList edits result.toList := by
  have hscan : LeftmostMatches 0 s.toList (scan s) := leftmostMatches_slugsFrom 0 s.toList
  have hsplice : ∀ edits : List (Slug × String), (edits.map Prod.fst).Sublist (scan s) →
      ∃ result, spliceSlices? s 0 edits = some result ∧
        Splices 0 s.toList edits result.toList := by
    intro edits hedits
    refine exists_spliceSlices? (u := []) rfl (fun e he => ?_) ?_
    · exact hscan.occurs e.1 (hedits.subset (List.mem_map_of_mem he))
    · exact List.pairwise_map.mp (hscan.before.sublist hedits)
  refine ⟨cutouts?_eq s, fun g hg => (hscan.occurs g hg).cutsOut,
    hscan.before.imp fun {g h} hbefore => ⟨hbefore, h.start_lt_stop⟩, ?_, hsplice⟩
  have hself : ((scan s).map fun g => (g, g.raw)).map Prod.fst = scan s := by
    rw [List.map_map]
    exact List.map_id _
  obtain ⟨result, hresult, hsplices⟩ := hsplice _ (by rw [hself])
  rw [hresult, String.ext (hsplices.eq_of_raw (List.forall_mem_map.mpr fun _ _ => rfl))]

/-- Two slugs among characters of several bytes, of which the second one is replaced. Its offsets
count bytes, of which there are more than characters. -/
theorem scan_offsets_wide :
    let s := "é\x7b#ent\u3000(ñ)#\x7d€\x7b#attr (b)#\x7d"
    let g : Slug := ⟨⟨.ent, ['\u3000'], .identity, [], ['ñ']⟩, 2⟩
    let h : Slug := ⟨⟨.attr, [' '], .identity, [], ['b']⟩, 19⟩
    (g ∈ scan s ∧ g.CutsOut s ∧ g.stop = 16) ∧ ([(h, "x")].map Prod.fst).Sublist (scan s) ∧
      ∃ result, spliceSlices? s 0 [(h, "x")] = some result ∧
        Splices 0 s.toList [(h, "x")] result.toList := by
  intro s g h
  have hscan : scan s = [g, h] := by decide +kernel
  have hsublist : ([(h, "x")].map Prod.fst).Sublist (scan s) := hscan ▸ .cons g (.refl [h])
  have hmem : g ∈ scan s := hscan ▸ List.mem_cons_self
  obtain ⟨-, hcutsOut, -, -, hsplice⟩ := scan_offsets s
  exact ⟨⟨hmem, hcutsOut g hmem, by decide⟩, hsublist, hsplice [(h, "x")] hsublist⟩

end Template

end EntityScript
