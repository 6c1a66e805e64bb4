import EntityScript.Proofs.Json.Records
import EntityScript.Proofs.Yaml.Nodes
import EntityScript.Proofs.Yaml.Scalar.Integers
import EntityScript.Yaml.Decode
import Mathlib.Data.List.Forall2

/-!
# Reading written values

What decoders make of the nodes of written values: a text, a truth value and an integer are read
back, a sequence is read item by item (`list_sequence`), and a record is read from a mapping that
writes its fields in their order (`record_mapping`).
-/

namespace EntityScript

namespace Yaml

open Value

/-! ### Words -/

theorem Value.isReadable_bool (b : Bool) : (Value.bool b).IsReadable := by
  rw [Value.bool, IsReadable]
  cases b <;> decide

/-- An integer is readable. -/
theorem Value.isReadable_int (i : Int) : (Value.int i).IsReadable := by
  rw [Value.int, IsReadable]
  refine ⟨fun hnil => ?_, allowsPlain_toString i⟩
  obtain ⟨n, -, htext⟩ | ⟨n, -, htext⟩ := toList_toString_cases i
  · exact Nat.toDigits_ne_nil (htext.symm.trans hnil)
  · exact List.cons_ne_nil _ _ (htext.symm.trans hnil)

namespace Decoder

variable {α σ : Type} {doc : Document}

/-! ### Scalars -/

theorem string_text (s : String) : string doc (Value.text s).node = some s := by
  rw [Value.node]
  exact congrArg some (String.ofList_toList)

theorem oneOf_text (named : String → Option α) (s : String) :
    oneOf named doc (Value.text s).node = named s := by
  rw [Value.node]
  exact congrArg named String.ofList_toList

theorem bool_bool (b : Bool) : bool doc (Value.bool b).node = some b := by
  rw [Value.bool, Value.node]
  cases b <;> rfl

/-- An integer of 32 bits is read back. -/
theorem int32_int (i : Int32) : int32 doc (Value.int i.toInt).node = some i := by
  have hlower := i.le_toInt
  have hupper := i.toInt_lt
  have hread : integerOf? 64 (toString i.toInt).toList = some i.toInt :=
    integerOf?_toString (by omega) (by omega)
  rw [Value.int, Value.node]
  show ((integerOf? 64 (toString i.toInt).toList).bind fun i =>
    if -0x80000000 ≤ i ∧ i < 0x80000000 then some (Int32.ofInt i) else none) = some i
  rw [hread, Option.bind_some, if_pos (by omega), Int32.ofInt_toInt]

/-! ### Sequences -/

/-- **A sequence is read item by item**, if there are as many values as items and each is read from
its own. -/
theorem list_sequence {read : Decoder α} {vs : List Value} {as : List α}
    (h : List.Forall₂ (fun v a => read doc v.node = some a) vs as) :
    list read doc (Value.sequence vs).node = some as := by
  have hitems : (itemNodes vs).mapM (read doc) = some as := by
    induction h with
    | nil =>
      rw [itemNodes]
      rfl
    | cons hv _ ih =>
      rw [itemNodes, List.mapM_cons, hv, ih]
      rfl
  rw [Value.node]
  exact hitems

/-! ### Records -/

/-- The members of a mapping write the fields in their order, under one of their names each, and
reading their values one after the other makes the second record of the first one. -/
inductive Writes (doc : Document) :
    List (RecordField σ) → List (String × Value) → σ → σ → Prop
  | nil (r : σ) : Writes doc [] [] r r
  | cons {f : RecordField σ} {fields : List (RecordField σ)} {name : String} {v : Value}
      {members : List (String × Value)} {r₀ r₁ r₂ : σ} (hname : name ∈ f.names)
      (hread : f.read doc v.node r₀ = some r₁) (hrest : Writes doc fields members r₁ r₂) :
      Writes doc (f :: fields) ((name, v) :: members) r₀ r₂

theorem read_of {names : List String} {read : Decoder α} {set : α → σ → σ} {n : Node} {x : α}
    (h : read doc n = some x) (r : σ) :
    (RecordField.of names read set).read doc n r = some (set x r) :=
  congrArg (Option.map (set · r)) h

theorem read_require_of {names : List String} {read : Decoder α} {set : α → σ → σ} {n : Node}
    {x : α} (h : read doc n = some x) (r : σ) :
    (RecordField.of names read set).require.read doc n r = some (set x r) :=
  congrArg (Option.map (set · r)) h

/-- The fields `before` have been read; the others are read from the members that write them. The
induction is on the fields that are written. -/
theorem members_memberNodes (before : List (RecordField σ)) {fields : List (RecordField σ)}
    {ms : List (String × Value)} {r r' : σ} (h : Writes doc fields ms r r') {seen : List Nat}
    (hnames : ((before ++ fields).flatMap (·.names)).Nodup)
    (hseen : ∀ i, i ∈ seen ↔ i < before.length) :
    ∃ seen', members (before ++ fields) doc seen r (memberNodes ms) = some (r', seen') ∧
      ∀ i, i ∈ seen' ↔ i < (before ++ fields).length := by
  -- The field that is read next is the one behind those that have been read.
  induction h generalizing before seen with
  | nil r => exact ⟨seen, by rw [memberNodes, members], by rwa [List.append_nil]⟩
  | @cons f fields name v ms r₀ r₁ r₂ hname hread _ ih =>
    have hkey : string doc (.scalar none .plain name.toList) = some name :=
      congrArg some String.ofList_toList
    have hfresh : seen.contains before.length = false :=
      Bool.eq_false_iff.mpr fun hmem =>
        Nat.lt_irrefl _ ((hseen _).mp (List.contains_iff_mem.mp hmem))
    have hfield : (before ++ f :: fields)[before.length]? = some f := by simp
    have hnext : ∀ i, i ∈ before.length :: seen ↔ i < (before ++ [f]).length := by
      intro i
      rw [List.mem_cons, hseen, List.length_append, List.length_singleton]
      omega
    obtain ⟨seen', hmembers, hseen'⟩ := ih (before ++ [f]) (by rwa [← List.append_cons]) hnext
    rw [← List.append_cons] at hmembers hseen'
    refine ⟨seen', ?_, hseen'⟩
    rw [memberNodes, members, hkey]
    simp only [Option.bind_eq_bind, Option.bind_some, findIdx?_contains_of_nodup hnames hname,
      hfresh, hfield, hread, hmembers, Bool.false_eq_true, if_false]

/-- **A record is read from a mapping that writes its fields in their order.** -/
theorem record_mapping {fields : List (RecordField σ)} {ms : List (String × Value)} {default r : σ}
    (hnames : (fields.flatMap (·.names)).Nodup) (h : Writes doc fields ms default r) :
    record fields default doc (Value.mapping ms).node = some r := by
  have hnone : ∀ i, i ∈ ([] : List Nat) ↔ i < ([] : List (RecordField σ)).length := by simp
  obtain ⟨seen, hmembers, hseen⟩ := members_memberNodes [] h hnames hnone
  have hcomplete : isComplete fields seen = true := by
    refine List.all_eq_true.mpr fun ⟨f, i⟩ hf => ?_
    have hi : i < fields.length := List.snd_lt_of_mem_zipIdx hf
    simp [(hseen i).mpr hi]
  rw [Value.node]
  show (members fields doc [] default (memberNodes ms)).bind _ = some r
  rw [List.nil_append] at hmembers
  rw [hmembers, Option.bind_some]
  exact if_pos hcomplete

/-- **A record is read back from the document that writes its fields in their order.** -/
theorem document_record {fields : List (RecordField σ)} {ms : List (String × Value)} {default r : σ}
    (hnames : (fields.flatMap (·.names)).Nodup) (hne : ms ≠ []) (hreadable : HaveReadable ms)
    (h : ∀ doc, Writes doc fields ms default r) :
    (Document.ofText? (Value.document ms)).bind (document (record fields default)) = some r := by
  rw [ofText?_document hne hreadable, Option.bind_some, document]
  have hread := @record_mapping σ { root := .mapping (memberNodes ms) } fields ms default r hnames
    (h _)
  rwa [Value.node] at hread

end Decoder

end Yaml

end EntityScript
