import EntityScript.Proofs.Generation.Reading
import EntityScript.Proofs.Template.Splicing

/-!
# Expanding a text

Expansion goes over the passages of a text and puts together what they stand for. Seen on the text
as a whole it is a splice: the slugs that have a record to read from are replaced where they stand,
each by what it asks for (`Piece.edits`), and everything else is copied, slugs without a record
among it. What is put in is not looked at again, whatever it looks like, as the slugs that are
replaced are those of the text before any of them is.

A slug whose record has no property of its name (`Piece.IsUnknown`) ends the expansion. The first
one of them is the failure, whatever stands after it.

**Main statement**: the expansion of a text is the text with its edits spliced in, or the failure
of its first unknown slug (`expand_splices`).
-/

namespace EntityScript

namespace Generation

open Template (Passage Slug Splices Spelling passages scan slugsFrom)

namespace Piece

variable {c : Config} {p : Piece}

/-- There is a record for the slug to read from, and it has no property of the name. -/
def IsUnknown (c : Config) (p : Piece) (g : Slug) : Prop :=
  p.insertion? c g.spelling = some none

instance (c : Config) (p : Piece) (g : Slug) : Decidable (p.IsUnknown c g) :=
  inferInstanceAs (Decidable (_ = _))

/-- Those of the slugs that have a record to read from, each with what stands in for it. -/
def edits (c : Config) (p : Piece) (gs : List Slug) : List (Slug × String) :=
  gs.filterMap fun g => (p.insertion? c g.spelling).join.map (g, ·)

theorem edits_cons_of_inactive {g : Slug} (h : p.insertion? c g.spelling = none) (gs : List Slug) :
    p.edits c (g :: gs) = p.edits c gs :=
  List.filterMap_cons_none (by rw [h]; rfl)

theorem edits_cons_of_known {g : Slug} {text : String}
    (h : p.insertion? c g.spelling = some (some text)) (gs : List Slug) :
    p.edits c (g :: gs) = (g, text) :: p.edits c gs :=
  List.filterMap_cons_some (by rw [h]; rfl)

/-- **Without unknown slugs** the readings of the passages, put together, are the text with its
edits spliced in. The induction is on the passages, and the offset of the first one is general. -/
theorem exists_splices {n : Nat} {ps : List Passage}
    (h : ∀ g ∈ slugsFrom n ps, ¬ p.IsUnknown c g) :
    ∃ texts, ps.mapM (p.passageReading c) = .ok texts ∧
      Splices n (ps.flatMap Passage.toList) (p.edits c (slugsFrom n ps)) texts.flatten := by
  induction ps generalizing n with
  | nil => exact ⟨[], rfl, .nil⟩
  | cons q ps ih =>
    cases q with
    | plain ch =>
      obtain ⟨texts, hread, hsplices⟩ := ih (n := n + ch.utf8Size) h
      exact ⟨[ch] :: texts, by rw [List.mapM_cons, hread]; rfl, hsplices.append_left [ch]⟩
    | slug w =>
      obtain ⟨texts, hread, hsplices⟩ := ih (n := n + Text.byteLength w.toList) fun g hg =>
        h g (List.mem_cons_of_mem _ hg)
      have hknown : p.insertion? c w ≠ some none := h ⟨w, n⟩ List.mem_cons_self
      rcases hinsertion : p.insertion? c w with _ | _ | text
      · -- A slug without a record is copied like the text around it.
        have hslug : p.passageReading c (.slug w) = .ok w.toList := by
          simp only [passageReading, slugReading, hinsertion]
        refine ⟨w.toList :: texts, by rw [List.mapM_cons, hslug, hread]; rfl, ?_⟩
        rw [slugsFrom, edits_cons_of_inactive hinsertion]
        exact hsplices.append_left w.toList
      · exact absurd hinsertion hknown
      · have hslug : p.passageReading c (.slug w) = .ok text.toList := by
          simp only [passageReading, slugReading, hinsertion]
        refine ⟨text.toList :: texts, by rw [List.mapM_cons, hslug, hread]; rfl, ?_⟩
        rw [slugsFrom, edits_cons_of_known hinsertion]
        exact hsplices.slug

/-- **The first unknown slug** is the failure of the passages, as all slugs before it can be read.
The induction is on the passages, which use up the slugs before it one by one. -/
theorem mapM_passageReading_of_isUnknown {n : Nat} {ps : List Passage} {before after : List Slug}
    {g : Slug} (hslugs : slugsFrom n ps = before ++ g :: after)
    (hbefore : ∀ h ∈ before, ¬ p.IsUnknown c h) (hg : p.IsUnknown c g) :
    ps.mapM (p.passageReading c) = .error (.slugResolution g.spelling) := by
  induction ps generalizing n before with
  | nil => simp [slugsFrom] at hslugs
  | cons q ps ih =>
    cases q with
    | plain ch =>
      rw [List.mapM_cons, ih hslugs hbefore]
      rfl
    | slug w =>
      cases before with
      | nil =>
        -- The passage is the unknown slug itself.
        obtain ⟨rfl, -⟩ := List.cons.inj hslugs
        have hinsertion : p.insertion? c w = some none := hg
        rw [List.mapM_cons]
        simp only [passageReading, slugReading, hinsertion]
        rfl
      | cons h before =>
        obtain ⟨rfl, htail⟩ := List.cons.inj hslugs
        have hknown : p.insertion? c w ≠ some none := hbefore ⟨w, n⟩ List.mem_cons_self
        have hrest := ih htail fun h hh => hbefore h (List.mem_cons_of_mem _ hh)
        rw [List.mapM_cons, hrest]
        simp only [passageReading, slugReading]
        rcases hinsertion : p.insertion? c w with _ | _ | text
        · rfl
        · exact absurd hinsertion hknown
        · rfl

end Piece

/-- **Expansion is splicing**: if every slug of the text that has a record to read from names one
of its properties, the expansion of the text is the text with what each of these slugs asks for put
in at its place, and nothing else changed. Otherwise it fails on the first slug of the text whose
record has no such property. The text is meant after the slugs of the project are replaced. -/
theorem expand_splices (c : Config) (p : Piece) :
    let t := String.ofList (replaceProjectSlugs c p.text.toList)
    ((∀ g ∈ scan t, ¬ p.IsUnknown c g) →
      ∃ output, (expand c (p.scopes c) p.text).outcome = .ok output ∧
        ∀ result, Splices 0 t.toList (p.edits c (scan t)) result ↔ result = output.toList) ∧
    ∀ before g after, scan t = before ++ g :: after → (∀ h ∈ before, ¬ p.IsUnknown c h) →
      p.IsUnknown c g →
      (expand c (p.scopes c) p.text).outcome = .error (.slugResolution g.spelling) := by
  intro t
  have houtcome : (expand c (p.scopes c) p.text).outcome = (fun texts =>
      String.ofList texts.flatten) <$> (passages t.toList).mapM (p.passageReading c) := by
    rw [String.toList_ofList]
    exact outcome_run_piece c p
  constructor
  · intro hknown
    -- With no unknown slug every passage reads as a text, and those texts, put together, are one
    -- splice; there is only one.
    obtain ⟨texts, hread, hsplices⟩ := Piece.exists_splices hknown
    rw [Template.flatMap_toList_passages] at hsplices
    refine ⟨String.ofList texts.flatten, by rw [houtcome, hread]; rfl, fun result => ?_⟩
    rw [String.toList_ofList (l := texts.flatten)]
    exact ⟨fun h => h.unique hsplices, fun h => h ▸ hsplices⟩
  · intro before g after hslugs hbefore hg
    rw [houtcome, Piece.mapM_passageReading_of_isUnknown hslugs hbefore hg]
    rfl

/-- Every kind of modifier is applied where both records are current. An attribute's slug stays as
it is written where no attribute is, and so does a slug that comes out of a record. Of two unknown
slugs the first one is the failure. -/
theorem expand_splices_mixed :
    let e : Metadata.Entity := { logicalName := "\x7b#ent (id)#\x7d" }
    let a : Metadata.Attribute := { schemaName := "parentId", attributeType := some .lookup }
    let p : Piece := ⟨"é\x7b#ent upper(logicalname)#\x7d:\x7b#attr title(schemaname)#\x7d " ++
      "\x7b#attr dt(attributetype)#\x7d \x7b#attr api(schemaname)#\x7d " ++
      "\x7b#attr api(attributetype)#\x7d", some e, some a⟩
    let r : Piece := ⟨"é\x7b#ent (logicalname)#\x7d\x7b#attr (x)#\x7d", some e, none⟩
    let q : Piece := ⟨"\x7b#attr (x)#\x7d\x7b#ent (y)#\x7d\x7b#ent (z)#\x7d", some e, none⟩
    let x : Slug := ⟨⟨.attr, [' '], .identity, [], ['x']⟩, 0⟩
    let y : Slug := ⟨⟨.ent, [' '], .identity, [], ['y']⟩, 12⟩
    let z : Slug := ⟨⟨.ent, [' '], .identity, [], ['z']⟩, 23⟩
    ((∀ g ∈ scan p.text, ¬ p.IsUnknown {} g) ∧
      (expand {} (p.scopes {}) p.text).outcome =
        .ok "é\x7b#ENT (ID)#\x7d:ParentId string _parentid_value Lookup" ∧
      Splices 0 p.text.toList (p.edits {} (scan p.text))
        "é\x7b#ENT (ID)#\x7d:ParentId string _parentid_value Lookup".toList) ∧
    ((∀ g ∈ scan r.text, ¬ r.IsUnknown {} g) ∧
      (expand {} (r.scopes {}) r.text).outcome = .ok "é\x7b#ent (id)#\x7d\x7b#attr (x)#\x7d" ∧
      Splices 0 r.text.toList (r.edits {} (scan r.text))
        "é\x7b#ent (id)#\x7d\x7b#attr (x)#\x7d".toList) ∧
    scan q.text = [x] ++ y :: [z] ∧ (∀ h ∈ [x], ¬ q.IsUnknown {} h) ∧ q.IsUnknown {} y ∧
      (expand {} (q.scopes {}) q.text).outcome = .error (.slugResolution y.spelling) := by
  intro e a p r q x y z
  have hspliced (piece : Piece) (result : String)
      (ht : String.ofList (replaceProjectSlugs {} piece.text.toList) = piece.text)
      (hknown : ∀ g ∈ scan piece.text, ¬ piece.IsUnknown {} g)
      (hresult : (expand {} (piece.scopes {}) piece.text).outcome = .ok result) :
      (expand {} (piece.scopes {}) piece.text).outcome = .ok result ∧
        Splices 0 piece.text.toList (piece.edits {} (scan piece.text)) result.toList := by
    have hpiece := expand_splices {} piece
    simp only [ht] at hpiece
    obtain ⟨output, houtput, hsplices⟩ := hpiece.1 hknown
    obtain rfl := Except.ok.inj (houtput.symm.trans hresult)
    exact ⟨hresult, (hsplices _).mpr rfl⟩
  have hp : ∀ g ∈ scan p.text, ¬ p.IsUnknown {} g := by decide +kernel
  have hr : ∀ g ∈ scan r.text, ¬ r.IsUnknown {} g := by decide +kernel
  have hslugs : scan q.text = [x] ++ y :: [z] := by decide +kernel
  have hinactive : ∀ h ∈ [x], ¬ q.IsUnknown {} h := by decide +kernel
  have hunknown : q.IsUnknown {} y := by decide +kernel
  have ht : String.ofList (replaceProjectSlugs {} q.text.toList) = q.text := by decide +kernel
  have hq := expand_splices {} q
  simp only [ht] at hq
  refine ⟨⟨hp, ?_⟩, ⟨hr, ?_⟩, hslugs, hinactive, hunknown,
    hq.2 [x] y [z] hslugs hinactive hunknown⟩
  · exact hspliced p _ (by decide +kernel) hp (by decide +kernel)
  · exact hspliced r _ (by decide +kernel) hr (by decide +kernel)

end Generation

end EntityScript
