import EntityScript.Yaml.Decode

/-!
# What decoders of documents give

As for JSON, a property of values passes from a decoder to the lists (`forall_mem_of_list`) and to
the records (`of_record`) that are read with it.
-/

namespace EntityScript

namespace Yaml

namespace Decoder

variable {α σ : Type} {doc : Document}

/-! ### Lists -/

section

variable {P : α → Prop} {read : Decoder α} (h : ∀ {n a}, read doc n = some a → P a)

include h

/-- Every node that is read has what the decoder gives. -/
theorem forall_mem_of_mapM {ns : List Node} {as : List α} (has : ns.mapM (read doc) = some as) :
    ∀ a ∈ as, P a := by
  induction ns generalizing as with
  | nil =>
    obtain rfl := Option.some.inj has
    exact fun a ha => absurd ha List.not_mem_nil
  | cons n ns ih =>
    rw [List.mapM_cons] at has
    obtain ⟨a, ha, hrest⟩ := Option.bind_eq_some_iff.mp has
    obtain ⟨rest, hns, heq⟩ := Option.bind_eq_some_iff.mp hrest
    obtain rfl := Option.some.inj heq
    exact List.forall_mem_cons.mpr ⟨h ha, ih hns⟩

/-- Every item of a sequence that is read has what the items' decoder gives. For a node that is no
sequence there is no list. -/
theorem forall_mem_of_list {n : Node} {as : List α} (has : list read doc n = some as) :
    ∀ a ∈ as, P a := by
  unfold list at has
  split at has
  · exact forall_mem_of_mapM h has
  · split at has
    · obtain rfl := Option.some.inj has
      exact fun a ha => absurd ha List.not_mem_nil
    · cases has

end

/-! ### Records -/

/-- The field keeps a property of the record into which it is read. -/
def RecordField.Keeps (P : σ → Prop) (f : RecordField σ) : Prop :=
  ∀ {doc n r r'}, P r → f.read doc n r = some r' → P r'

/-- A field keeps what setting it to any value that its decoder gives keeps. -/
theorem RecordField.keeps_of {P : σ → Prop} {names : List String} {read : Decoder α}
    {set : α → σ → σ} (h : ∀ {doc n x r}, read doc n = some x → P r → P (set x r)) :
    (RecordField.of names read set).Keeps P := by
  intro doc n r r' hr hread
  obtain ⟨x, hx, rfl⟩ := Option.map_eq_some_iff.mp hread
  exact h hx hr

section

variable {P : σ → Prop} {fields : List (RecordField σ)} (h : ∀ f ∈ fields, f.Keeps P)

include h

/-- Reading members keeps what every field keeps. The induction is on the members, of which each is
read into a field or skipped. -/
theorem of_members {seen seen' : List Nat} {ms : List (Node × Node)} {r r' : σ} (hr : P r)
    (hread : members fields doc seen r ms = some (r', seen')) : P r' := by
  induction ms generalizing seen r with
  | nil =>
    cases hread
    exact hr
  | cons m ms ih =>
    obtain ⟨key, v⟩ := m
    rw [members] at hread
    obtain ⟨name, -, hread⟩ := Option.bind_eq_some_iff.mp hread
    split at hread
    · exact ih hr hread
    · split at hread
      · cases hread
      · obtain ⟨f, hf, hread⟩ := Option.bind_eq_some_iff.mp hread
        obtain ⟨r₁, hfield, hread⟩ := Option.bind_eq_some_iff.mp hread
        exact ih (h f (List.mem_of_getElem? hf) hr hfield) hread

/-- A record that is read has what its defaults have and every field keeps. The members of a mapping
are read one after the other, and required fields have to be among them. -/
theorem of_record {default r : σ} {n : Node} (hdefault : P default)
    (hread : record fields default doc n = some r) : P r := by
  have hend : ∀ {ms r₁ seen}, members fields doc [] default ms = some (r₁, seen) →
      (if isComplete fields seen then some r₁ else none) = some r → P r := by
    intro ms r₁ seen hmembers hend
    split at hend
    · exact Option.some.inj hend ▸ of_members h hdefault hmembers
    · cases hend
  unfold record at hread
  dsimp only at hread
  split at hread
  · obtain ⟨⟨r₁, seen⟩, hmembers, hrest⟩ := Option.bind_eq_some_iff.mp hread
    exact hend hmembers hrest
  · split at hread
    · obtain ⟨⟨r₁, seen⟩, hmembers, hrest⟩ := Option.bind_eq_some_iff.mp hread
      exact hend hmembers hrest
    · cases hread

end

end Decoder

end Yaml

end EntityScript
