import EntityScript.Proofs.Json.Decoding
import Mathlib.Data.List.Forall2

/-!
# Reading complete values

A complete value has a draft without breaks, so what a decoder makes of it can be told from the
value: it is skipped without a fault (`skip_draft`), an array is read when its items are, one by one
(`value_list_eq_ok_iff`), and a record of a single field is read from an object that has exactly one
member of that name (`value_record_single_eq_ok_iff`). A decoder of whole texts that first reads the
value sees no more of the text than the value (`text_value_eq_ok_iff`).
-/

namespace EntityScript

namespace Json

namespace Decoder

variable {α : Type}

/-! ### Skipping -/

mutual

/-- A complete value is skipped without a fault. Members of unknown names are skipped, so they do no
harm. -/
theorem skip_draft : ∀ v : Value, v.draft.skip = .ok ()
  | .null | .bool _ | .number _ | .string _ => rfl
  | .array vs => by
    rw [Value.draft, Draft.skip, skipItems_drafts vs]
    rfl
  | .object ms => by
    rw [Value.draft, Draft.skip, skipMembers_memberDrafts ms]
    rfl

theorem skipItems_drafts : ∀ vs : List Value, Draft.skipItems (Value.drafts vs) = .ok ()
  | [] => rfl
  | v :: vs => by
    rw [Value.drafts, Draft.skipItems, skip_draft v, skipItems_drafts vs]
    rfl

theorem skipMembers_memberDrafts :
    ∀ ms : List (String × Value), Draft.skipMembers (Value.memberDrafts ms) = .ok ()
  | [] => rfl
  | (_, v) :: ms => by
    rw [Value.memberDrafts, Draft.skipMembers, skip_draft v, skipMembers_memberDrafts ms]
    rfl

end

/-! ### Arrays -/

/-- Items are read one by one, each of them from its own value. The induction is on the items. -/
theorem items_drafts_eq_ok_iff {read : Decoder α} {vs : List Value} {as : List α} :
    items read (Value.drafts vs) = .ok as ↔
      List.Forall₂ (fun v a => value read v = .ok a) vs as := by
  induction vs generalizing as with
  | nil =>
    rw [List.forall₂_nil_left_iff]
    exact ⟨fun h => (Except.ok.inj h).symm, fun h => congrArg Except.ok h.symm⟩
  | cons v vs ih =>
    rw [List.forall₂_cons_left_iff]
    constructor
    · intro h
      obtain ⟨a, ha, hrest⟩ := bind_eq_ok_iff.mp h
      obtain ⟨rest, hvs, heq⟩ := bind_eq_ok_iff.mp hrest
      exact ⟨a, rest, ha, ih.mp hvs, (Except.ok.inj heq).symm⟩
    · rintro ⟨a, rest, ha, hvs, rfl⟩
      exact bind_eq_ok_iff.mpr ⟨a, ha, bind_eq_ok_iff.mpr ⟨rest, ih.mpr hvs, rfl⟩⟩

/-- **An array is read item by item**: as many values as there are items, each read from its own. A
complete value has no break, at which the list would end. -/
theorem value_list_eq_ok_iff {read : Decoder α} {vs : List Value} {as : List α} :
    value (list read) (.array vs) = .ok as ↔
      List.Forall₂ (fun v a => value read v = .ok a) vs as := by
  rw [← items_drafts_eq_ok_iff, value, Value.draft, list]
  constructor
  · intro h
    obtain ⟨as', hitems, heq⟩ := bind_eq_ok_iff.mp h
    exact Except.ok.inj heq ▸ hitems
  · intro h
    exact bind_eq_ok_iff.mpr ⟨as, h, rfl⟩

/-! ### Records of a single field -/

section

variable {name : String} {read : Decoder α}

/-- The members of an object that have a name. -/
def membersNamed (name : String) (ms : List (String × Value)) : List (String × Value) :=
  ms.filter (·.1 == name)

/-- The fields of a record that is nothing but the value of one required field. -/
def singleField (name : String) (read : Decoder α) : List (RecordField α) :=
  [.require (.of [name] read fun a _ => a)]

/-- A member of another name is skipped, as there is no field for it. Its value has to be complete,
which it is here. -/
theorem members_singleField_of_ne {seen : List Nat} {r : α} {key : String} {v : Value}
    {ms : List (String × Value)} (h : key ≠ name) :
    members (singleField name read) seen r (Value.memberDrafts ((key, v) :: ms)) =
      members (singleField name read) seen r (Value.memberDrafts ms) := by
  have hfind : (singleField name read).findIdx? (·.names.contains key) = none := by
    simp [singleField, RecordField.require, RecordField.of, h]
  rw [Value.memberDrafts, members]
  simp only [hfind, skip_draft]
  rfl

theorem findIdx?_singleField :
    (singleField name read).findIdx? (·.names.contains name) = some 0 := by
  simp [singleField, RecordField.require, RecordField.of]

theorem members_singleField_again {r : α} {v : Value} {ms : List (String × Value)} :
    members (singleField name read) [0] r (Value.memberDrafts ((name, v) :: ms)) =
      .error .mismatch := by
  rw [Value.memberDrafts, members]
  simp only [findIdx?_singleField]
  rfl

/-- The first member of the name is read, and then the field is one that has been seen. From then on
the name is refused. -/
theorem members_singleField_first {r : α} {v : Value} {ms : List (String × Value)} :
    members (singleField name read) [] r (Value.memberDrafts ((name, v) :: ms)) =
      value read v >>= fun a =>
        members (singleField name read) [0] a (Value.memberDrafts ms) := by
  rw [Value.memberDrafts, members]
  simp only [findIdx?_singleField]
  cases hv : read v.draft <;>
    simp [singleField, RecordField.require, RecordField.of, value, hv, Except.map]

theorem membersNamed_cons_of_ne {key : String} {v : Value} {ms : List (String × Value)}
    (h : key ≠ name) : membersNamed name ((key, v) :: ms) = membersNamed name ms :=
  List.filter_cons_of_neg (by simpa using h)

theorem membersNamed_cons_self {v : Value} {ms : List (String × Value)} :
    membersNamed name ((name, v) :: ms) = (name, v) :: membersNamed name ms :=
  List.filter_cons_of_pos (beq_self_eq_true name)

/-- Once the field is read, no other member may have its name. What the field holds does not change
any more. -/
theorem members_singleField_seen_eq_ok_iff {r r' : α} {seen : List Nat}
    {ms : List (String × Value)} :
    members (singleField name read) [0] r (Value.memberDrafts ms) = .ok (r', seen) ↔
      membersNamed name ms = [] ∧ r = r' ∧ [0] = seen := by
  induction ms with
  | nil => simp [Value.memberDrafts, members, membersNamed]
  | cons m ms ih =>
    obtain ⟨key, v⟩ := m
    by_cases hkey : key = name
    · subst hkey
      rw [members_singleField_again, membersNamed_cons_self]
      exact ⟨nofun, nofun⟩
    · rw [members_singleField_of_ne hkey, ih, membersNamed_cons_of_ne hkey]

/-- Members are read where none of them has the name, or exactly one. The induction is on the
members; once the name is met, `members_singleField_seen_eq_ok_iff` tells of the others. -/
theorem members_singleField_eq_ok_iff {r r' : α} {seen : List Nat} {ms : List (String × Value)} :
    members (singleField name read) [] r (Value.memberDrafts ms) = .ok (r', seen) ↔
      (membersNamed name ms = [] ∧ r = r' ∧ [] = seen) ∨
      ∃ v, membersNamed name ms = [(name, v)] ∧ value read v = .ok r' ∧ [0] = seen := by
  induction ms with
  | nil => simp [Value.memberDrafts, members, membersNamed]
  | cons m ms ih =>
    obtain ⟨key, v⟩ := m
    by_cases hkey : key = name
    · -- The field is read here, and must not be met again.
      subst hkey
      rw [members_singleField_first, membersNamed_cons_self, bind_eq_ok_iff]
      constructor
      · rintro ⟨a, ha, hrest⟩
        obtain ⟨hnone, rfl, hseen⟩ := members_singleField_seen_eq_ok_iff.mp hrest
        exact .inr ⟨v, by rw [hnone], ha, hseen⟩
      · rintro (⟨hnone, -, -⟩ | ⟨v', hone, ha, hseen⟩)
        · cases hnone
        · obtain ⟨hmember, hnone⟩ := List.cons.inj hone
          obtain rfl := (Prod.mk.inj hmember).2
          exact ⟨r', ha, members_singleField_seen_eq_ok_iff.mpr ⟨hnone, rfl, hseen⟩⟩
    · rw [members_singleField_of_ne hkey, ih, membersNamed_cons_of_ne hkey]

theorem isComplete_singleField {seen : List Nat} :
    isComplete (singleField name read) seen = seen.contains 0 := by
  simp [isComplete, singleField, RecordField.require, RecordField.of]

/-- **A record of a single field** is read from an object that has exactly one member of its name,
whatever other members it has. -/
theorem value_record_singleField_eq_ok_iff {a default : α} {ms : List (String × Value)} :
    value (record (singleField name read) default) (.object ms) = .ok a ↔
      ∃ v, membersNamed name ms = [(name, v)] ∧ value read v = .ok a := by
  rw [value, Value.draft, record, bind_eq_ok_iff]
  constructor
  · rintro ⟨⟨r, seen⟩, hms, hend⟩
    simp only [isComplete_singleField] at hend
    obtain ⟨-, -, rfl⟩ | ⟨v, hone, ha, rfl⟩ := members_singleField_eq_ok_iff.mp hms
    · cases hend
    · exact ⟨v, hone, by rw [ha, Except.ok.inj hend]⟩
  · rintro ⟨v, hone, ha⟩
    refine ⟨(a, [0]), members_singleField_eq_ok_iff.mpr (.inr ⟨v, hone, ha, rfl⟩), ?_⟩
    simp only [isComplete_singleField]
    rfl

end

/-! ### Whole texts -/

/-- A text is read whole as the value of its draft, if its tokens make one. Nothing but white space
may stand behind it. -/
theorem wholeValue_of_tokens {s : String} {ts : List Token} {d : Draft} {v : Value}
    (hts : tokens s.toList = ts) (hd : draftWithin (2 * ts.length + 2) ts = (d, []))
    (hv : d.value depthLimit = .ok v) : wholeValue s = .ok v := by
  rw [wholeValue, text, Document.ofText, hts, hd]
  simp only [hv]
  rfl

/-- What a text is read as by a decoder that first reads its value: the text has no part in it but
by the value. -/
theorem text_value_eq_ok_iff {read : Decoder α} {s : String} {v : Value} {a : α}
    (hs : wholeValue s = .ok v) :
    text (fun d => d.value depthLimit >>= value read) s = .ok a ↔ value read v = .ok a := by
  obtain ⟨v', hroot, hend⟩ := bind_eq_ok_iff.mp hs
  split at hend
  · cases hend
  next htrailing =>
    obtain rfl := Except.ok.inj hend
    rw [text, bind_eq_ok_iff]
    simp only [hroot, if_neg htrailing]
    constructor
    · rintro ⟨a', hread, heq⟩
      exact Except.ok.inj heq ▸ hread
    · intro hread
      exact ⟨a, hread, rfl⟩

end Decoder

end Json

end EntityScript
