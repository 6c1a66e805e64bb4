import EntityScript.Json.Decode

/-!
# What decoders give

A property of values passes from a decoder to what is built from it: every item of a list that is
read has it if the items' decoder gives nothing else (`forall_mem_of_list`), and a record that is
read has a property if the record without any member has it and every field keeps it
(`of_record`), whether it is read from an object or from an array. What a whole text gives is what
its root gives (`of_text`).
-/

namespace EntityScript

namespace Json

namespace Decoder

variable {α β σ : Type}

/-- A chain of readings gives a value through the value of its first link. The links are read off
one by one in this way. -/
theorem bind_eq_ok_iff {x : Except Fault α} {f : α → Except Fault β} {b : β} :
    x >>= f = .ok b ↔ ∃ a, x = .ok a ∧ f a = .ok b := by
  cases x with
  | error e => exact ⟨fun h => (nomatch h), fun ⟨_, h, _⟩ => nomatch h⟩
  | ok a => exact ⟨fun h => ⟨a, rfl, h⟩, fun ⟨_, ha, h⟩ => Except.ok.inj ha ▸ h⟩

theorem map_eq_ok_iff {ε : Type} {x : Except ε α} {f : α → β} {b : β} :
    x.map f = .ok b ↔ ∃ a, x = .ok a ∧ f a = b := by
  cases x with
  | error e => exact ⟨fun h => (nomatch h), fun ⟨_, h, _⟩ => nomatch h⟩
  | ok a => exact ⟨fun h => ⟨a, rfl, Except.ok.inj h⟩, fun ⟨_, ha, h⟩ => Except.ok.inj ha ▸ h ▸ rfl⟩

/-- Where the fault is dropped, what is left is the result. Where several shapes are tried, this is
what is kept of each. -/
theorem toOption_eq_some_iff {ε : Type} {x : Except ε α} {a : α} :
    x.toOption = some a ↔ x = .ok a := by
  cases x with
  | error e => exact ⟨fun h => (nomatch h), fun h => nomatch h⟩
  | ok b => exact ⟨fun h => Option.some.inj h ▸ rfl, fun h => Except.ok.inj h ▸ rfl⟩

/-! ### Lists -/

section

variable {P : α → Prop} {read : Decoder α} (h : ∀ {d a}, read d = .ok a → P a)

include h

/-- Every item that is read has what the items' decoder gives. The induction is on the drafts. -/
theorem forall_mem_of_items {ds : List Draft} {as : List α} (has : items read ds = .ok as) :
    ∀ a ∈ as, P a := by
  induction ds generalizing as with
  | nil =>
    obtain rfl := Except.ok.inj has
    exact fun a ha => absurd ha List.not_mem_nil
  | cons d ds ih =>
    obtain ⟨a, ha, hrest⟩ := bind_eq_ok_iff.mp has
    obtain ⟨rest, hds, heq⟩ := bind_eq_ok_iff.mp hrest
    obtain rfl := Except.ok.inj heq
    exact List.forall_mem_cons.mpr ⟨h ha, ih hds⟩

/-- Every item of an array that is read has what the items' decoder gives. For a text that breaks
off in the array there is no list. -/
theorem forall_mem_of_list {d : Draft} {as : List α} (has : list read d = .ok as) :
    ∀ a ∈ as, P a := by
  unfold list at has
  split at has
  · next ds ending =>
    obtain ⟨as', hds, hend⟩ := bind_eq_ok_iff.mp has
    cases ending with
    | some b => cases hend
    | none => exact Except.ok.inj hend ▸ forall_mem_of_items h hds
  · cases has

end

/-! ### Records -/

/-- The field keeps a property of the record into which it is read. -/
def RecordField.Keeps (P : σ → Prop) (f : RecordField σ) : Prop :=
  ∀ {d r r'}, P r → f.read d r = .ok r' → P r'

/-- A field keeps what setting it to any value that its decoder gives keeps. So a field is looked at
once, and not again for every record that has it. -/
theorem RecordField.keeps_of {P : σ → Prop} {names : List String} {read : Decoder α}
    {set : α → σ → σ} (h : ∀ {d x r}, read d = .ok x → P r → P (set x r)) :
    (RecordField.of names read set).Keeps P := by
  intro d r r' hr hread
  obtain ⟨x, hx, rfl⟩ := map_eq_ok_iff.mp hread
  exact h hx hr

section

variable {P : σ → Prop} {fields : List (RecordField σ)}

/-- Reading members keeps what every field keeps: each member is read into a field, or skipped. The
record has the property at every point of the way, and not just at its end. -/
theorem of_members (h : ∀ f ∈ fields, f.Keeps P) {seen seen' : List Nat}
    {ms : List (Option String × Draft)} {r r' : σ} (hr : P r)
    (hread : members fields seen r ms = .ok (r', seen')) : P r' := by
  fun_induction members fields seen r ms with
  | case1 seen r =>
    cases hread
    exact hr
  | case2 => cases hread
  | case3 seen r key d ms hfind ih =>
    -- A member of an unknown name is skipped.
    obtain ⟨-, -, hrest⟩ := bind_eq_ok_iff.mp hread
    exact ih hr hrest
  | case4 => cases hread
  | case5 => cases hread
  | case6 seen r key d ms i hfind hseen f hf ih =>
    obtain ⟨r₁, hfield, hrest⟩ := bind_eq_ok_iff.mp hread
    exact ih r₁ (h f (List.mem_of_getElem? hf) hr hfield) hrest

/-- Reading fields from an array keeps what every field keeps, as the fields come in their order.
Each field is read from the item at its place. -/
theorem of_positional {ending : Option Break} {ds : List Draft} {r r' : σ}
    (h : ∀ f ∈ fields, f.Keeps P) (hr : P r)
    (hread : positional ending fields ds r = .ok r') : P r' := by
  fun_induction positional ending fields ds r with
  | case1 r => exact Except.ok.inj hread ▸ hr
  | case2 => cases hread
  | case3 => cases hread
  | case4 => cases hread
  | case5 f fs r hrequired => exact Except.ok.inj hread ▸ hr
  | case6 => cases hread
  | case7 f fs d ds r ih =>
    obtain ⟨r₁, hfield, hrest⟩ := bind_eq_ok_iff.mp hread
    exact ih r₁ (fun f' hf' => h f' (List.mem_cons_of_mem f hf'))
      (h f List.mem_cons_self hr hfield) hrest

/-- A record that is read has what its defaults have and every field keeps, whether it is written as
an object or as an array. -/
theorem of_record (h : ∀ f ∈ fields, f.Keeps P) {default r : σ} {d : Draft} (hdefault : P default)
    (hread : record fields default d = .ok r) : P r := by
  unfold record at hread
  split at hread
  · next ms ending =>
    obtain ⟨⟨r₁, seen⟩, hms, hend⟩ := bind_eq_ok_iff.mp hread
    have hr₁ : P r₁ := of_members h hdefault hms
    cases ending with
    | some b => cases hend
    | none =>
      dsimp only at hend
      split at hend
      · exact Except.ok.inj hend ▸ hr₁
      · cases hend
  · exact of_positional h hdefault hread
  · cases hread

end

/-! ### Texts -/

/-- What a whole text gives has what the decoder gives; text behind the value makes it fail. -/
theorem of_text {P : α → Prop} {read : Decoder α} (h : ∀ {d a}, read d = .ok a → P a)
    {s : String} {a : α} (hread : text read s = .ok a) : P a := by
  obtain ⟨a', ha', hend⟩ := bind_eq_ok_iff.mp hread
  split at hend
  · cases hend
  · exact Except.ok.inj hend ▸ h ha'

end Decoder

end Json

end EntityScript
