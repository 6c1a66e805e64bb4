import EntityScript.Proofs.Json.Whole

/-!
# Reading written values

What decoders make of values that were written for them. A decoder reads back what an encoder writes
(`ReadsBack`) if it gives every value back from its encoding. That passes on to options, as long as
nothing is written as null, to lists, and to records that are read by their fields from an object
that writes these in their order (`record_object`).
-/

namespace EntityScript

/-- A name that only one of several things has is found at the place of that. The names of all
things together must be different, and not just the first ones of each. -/
theorem findIdx?_contains_of_nodup {φ : Type} {names : φ → List String} {before after : List φ}
    {f : φ} {name : String} (hnames : ((before ++ f :: after).flatMap names).Nodup)
    (hname : name ∈ names f) :
    (before ++ f :: after).findIdx? (fun g => (names g).contains name) = some before.length := by
  have hbefore : before.findIdx? (fun g => (names g).contains name) = none := by
    refine List.findIdx?_eq_none_iff.mpr fun g hg => ?_
    rw [List.flatMap_append, List.nodup_append] at hnames
    refine Bool.eq_false_iff.mpr fun hmem => ?_
    exact hnames.2.2 name (List.mem_flatMap_of_mem hg (List.contains_iff_mem.mp hmem)) name
      (List.mem_flatMap_of_mem List.mem_cons_self hname) rfl
  rw [List.findIdx?_append, hbefore, Option.none_or, List.findIdx?_cons,
    if_pos (List.contains_iff_mem.mpr hname)]
  simp

namespace Json

namespace Decoder

variable {α σ : Type} {read : Decoder α} {encode : α → Value}

/-- The decoder gives everything back that the encoder writes. -/
def ReadsBack (read : Decoder α) (encode : α → Value) : Prop :=
  ∀ a, value read (encode a) = .ok a

namespace ReadsBack

theorem string : ReadsBack string .string := fun _ => rfl

theorem bool : ReadsBack bool .bool := fun _ => rfl

/-- An integer of 32 bits is read back from its numeral. Its numeral has neither a fraction nor an
exponent. -/
theorem int32 : ReadsBack int32 fun i => .int i.toInt := by
  intro i
  have hlower := i.le_toInt
  have hupper := i.toInt_lt
  have hrange : (-0x80000000 ≤ i.toInt && i.toInt < 0x80000000) = true := by
    simp only [Bool.and_eq_true, decide_eq_true_eq]
    omega
  simp only [value, Value.int, Value.draft, Decoder.int32, Numeral.int?_ofInt, hrange, if_true,
    Int32.ofInt_toInt]

theorem oneOf {named : String → Option α} {name : α → String}
    (h : ∀ a, named (name a) = some a) : ReadsBack (oneOf named) fun a => .string (name a) := by
  intro a
  simp only [value, Value.draft, Decoder.oneOf, h]

/-- Nothing is written as null, and no value is. If a value were, it would be read back as
nothing. -/
theorem option (h : ReadsBack read encode) (hnull : ∀ a, encode a ≠ .null) :
    ReadsBack (option read) (.option encode) := by
  intro a
  cases a with
  | none => rfl
  | some a =>
    have hread : value (Decoder.option read) (encode a) = (value read (encode a)).map some := by
      cases hencode : encode a with
      | null => exact absurd hencode (hnull a)
      | _ => rfl
    rw [Value.option, hread, h a]
    rfl

theorem list (h : ReadsBack read encode) : ReadsBack (list read) (.list encode) :=
  fun _ => value_list_eq_ok_iff.mpr
    (List.forall₂_map_left_iff.mpr (List.forall₂_same.mpr fun a _ => h a))

end ReadsBack

/-! ### Records -/

/-- The members of an object write the fields in their order, under one of their names each, and
reading their values one after the other makes the second record of the first one. -/
inductive Writes : List (RecordField σ) → List (String × Value) → σ → σ → Prop
  | nil (r : σ) : Writes [] [] r r
  | cons {f : RecordField σ} {fields : List (RecordField σ)} {name : String} {v : Value}
      {ms : List (String × Value)} {r₀ r₁ r₂ : σ} (hname : name ∈ f.names)
      (hread : f.read v.draft r₀ = .ok r₁) (hrest : Writes fields ms r₁ r₂) :
      Writes (f :: fields) ((name, v) :: ms) r₀ r₂

theorem Writes.field {names : List String} {set : α → σ → σ} {fields : List (RecordField σ)}
    {name : String} {ms : List (String × Value)} {a : α} {r r' : σ} (h : ReadsBack read encode)
    (hname : name ∈ names) (hrest : Writes fields ms (set a r) r') :
    Writes (.of names read set :: fields) ((name, encode a) :: ms) r r' :=
  .cons hname (congrArg (Except.map (set · r)) (h a)) hrest

/-- The fields `before` have been read; the others are read from the members that write them. The
induction is on these members, and the fields that have been read are those before the next one. -/
theorem members_memberDrafts (before : List (RecordField σ)) {fields : List (RecordField σ)}
    {ms : List (String × Value)} {r r' : σ} (h : Writes fields ms r r') {seen : List Nat}
    (hnames : ((before ++ fields).flatMap (·.names)).Nodup)
    (hseen : ∀ i, i ∈ seen ↔ i < before.length) :
    ∃ seen', members (before ++ fields) seen r (Value.memberDrafts ms) = .ok (r', seen') ∧
      ∀ i, i ∈ seen' ↔ i < (before ++ fields).length := by
  -- The field that is read next is the one behind those that have been read.
  induction h generalizing before seen with
  | nil r => exact ⟨seen, rfl, by rwa [List.append_nil]⟩
  | @cons f fields name v ms r₀ r₁ r₂ hname hread _ ih =>
    have hfresh : seen.contains before.length = false :=
      Bool.eq_false_iff.mpr fun hmem =>
        Nat.lt_irrefl _ ((hseen _).mp (List.contains_iff_mem.mp hmem))
    have hfield : (before ++ f :: fields)[before.length]? = some f := by simp
    have hnext : ∀ i, i ∈ before.length :: seen ↔ i < (before ++ [f]).length := by
      intro i
      rw [List.mem_cons, hseen, List.length_append, List.length_singleton]
      omega
    obtain ⟨seen', hmembers, hseen'⟩ := ih (before ++ [f]) (by rwa [← List.append_cons]) hnext
    rw [← List.append_cons] at hmembers hseen'
    refine ⟨seen', ?_, hseen'⟩
    rw [Value.memberDrafts, members]
    simp only [findIdx?_contains_of_nodup hnames hname, hfresh, hfield, hread,
      Bool.false_eq_true, if_false]
    exact hmembers

/-- **A record is read from an object that writes its fields in their order.** The names of the
fields have to be different, or a later field would be taken for an earlier one. -/
theorem record_object {fields : List (RecordField σ)} {ms : List (String × Value)} {default r : σ}
    (hnames : (fields.flatMap (·.names)).Nodup) (h : Writes fields ms default r) :
    value (record fields default) (.object ms) = .ok r := by
  have hnone : ∀ i, i ∈ ([] : List Nat) ↔ i < ([] : List (RecordField σ)).length := by simp
  obtain ⟨seen, hmembers, hseen⟩ := members_memberDrafts [] h hnames hnone
  have hcomplete : isComplete fields seen = true := by
    refine List.all_eq_true.mpr fun ⟨f, i⟩ hf => ?_
    have hi : i < fields.length := List.snd_lt_of_mem_zipIdx hf
    simp [(hseen i).mpr hi]
  rw [List.nil_append] at hmembers
  rw [value, Value.draft, record, hmembers]
  exact if_pos hcomplete

end Decoder

end Json

end EntityScript
