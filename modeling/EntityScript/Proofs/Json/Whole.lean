import EntityScript.Proofs.Json.Compact
import EntityScript.Proofs.Json.Values
import EntityScript.Proofs.Text.Digits

/-!
# Compact texts read whole

Reading a whole value has limits that reading its parts does not have: numbers that no 64-bit
floating point can hold are refused, and so is a value that is nested too deep. A value within these
limits (`Value.Fits`) is read back from its compact text (`Decoder.wholeValue_compact`). The numeral
of an integer of 32 bits is within them, and is that integer (`Numeral.int?_ofInt`).
-/

namespace EntityScript

namespace Json

/-! ### Numerals of integers -/

namespace Numeral

theorem digitsValue_naturalDigits (n : Nat) : digitsValue (naturalDigits n) = n :=
  Nat.ofDigitChars_toDigits (by decide) (by decide)

/-- The numeral of an integer is one of JSON. There are digits, and no needless zero in front of
them. -/
theorem isWellFormed_ofInt (i : Int) : (ofInt i).IsWellFormed where
  whole_ne_nil := Nat.toDigits_ne_nil
  isDigit_whole _ := Text.isDigit_of_mem_toDigits
  eq_nil_of_zero _ := Text.eq_nil_of_toDigits_eq
  isDigit_fraction _ hc := absurd hc List.not_mem_nil
  exponent_ne_nil _ he := nomatch he
  isDigit_exponent _ he := nomatch he

/-- **An integer is read back from its numeral**, if it is one of 32 bits. The sign stands in the
numeral by itself, and the digits are those of the absolute value. -/
theorem int?_ofInt (i : Int32) : (ofInt i.toInt).int? = some i.toInt := by
  have hlower := i.le_toInt
  have hupper := i.toInt_lt
  have hint : (ofInt i.toInt).int? =
      if i.toInt < 0 then
        if 0 < i.toInt.natAbs ∧ i.toInt.natAbs ≤ 0x8000000000000000 then
          some (-(i.toInt.natAbs : Int)) else none
      else if i.toInt.natAbs < 0x10000000000000000 then some (i.toInt.natAbs : Int) else none := by
    simp [int?, ofInt, digitsValue_naturalDigits]
  rw [hint]
  split
  · rw [if_pos (by omega), Option.some_inj]
    omega
  · rw [if_pos (by omega), Option.some_inj]
    omega

/-- An integer of 32 bits is far from what a floating point number cannot hold. It has at most ten
digits. -/
theorem isOutOfRange_ofInt (i : Int32) : (ofInt i.toInt).isOutOfRange = false := by
  have hlower := i.le_toInt
  have hupper := i.toInt_lt
  have hbound : 0x80000000 < overflowBound := by decide +kernel
  have hsignificand : (ofInt i.toInt).significand = i.toInt.natAbs := by
    rw [significand, ofInt, List.append_nil, digitsValue_naturalDigits]
  have hscale : (ofInt i.toInt).scale = 0 := rfl
  rw [isOutOfRange, hsignificand, hscale]
  split
  · rfl
  · have hless : i.toInt.natAbs < overflowBound := by omega
    simpa using hless

end Numeral

/-! ### Depth -/

mutual

/-- How deep arrays and objects are nested in a value. -/
def Value.depth : Value → Nat
  | .array vs => Value.itemDepth vs + 1
  | .object ms => Value.memberDepth ms + 1
  | .null | .bool _ | .number _ | .string _ => 0

/-- How deep the items of an array are nested. -/
def Value.itemDepth : List Value → Nat
  | [] => 0
  | v :: vs => max v.depth (Value.itemDepth vs)

/-- How deep the members of an object are nested. -/
def Value.memberDepth : List (String × Value) → Nat
  | [] => 0
  | (_, v) :: ms => max v.depth (Value.memberDepth ms)

end

/-- The value can be read whole: its numerals are well formed, none of them is out of range, and it
has at most the given levels of arrays and objects. -/
structure Value.Fits (depth : Nat) (v : Value) : Prop where
  isWellFormed : v.IsWellFormed
  inRange : ∀ n ∈ v.numerals, n.isOutOfRange = false
  depth_le : v.depth ≤ depth

mutual

/-- A value within the limits is that of its draft. The induction is on the value, with one level
less for what is inside an array or object. -/
theorem value_draft : ∀ (v : Value) (depth : Nat), (∀ n ∈ v.numerals, n.isOutOfRange = false) →
    v.depth ≤ depth → v.draft.value depth = .ok v
  | .null, _, _, _ | .bool _, _, _, _ | .string _, _, _, _ => rfl
  | .number n, _, hn, _ => by
    have hrange : n.isOutOfRange = false := hn n (List.mem_singleton_self n)
    rw [Value.draft, Draft.value, if_neg (by rw [hrange]; decide)]
  | .array vs, depth, hn, hdepth => by
    obtain ⟨depth, rfl⟩ := Nat.exists_eq_add_of_le' (Nat.le_of_add_left_le hdepth)
    rw [Value.draft, Draft.value, values_drafts vs depth hn (Nat.le_of_add_le_add_right hdepth)]
    rfl
  | .object ms, depth, hn, hdepth => by
    obtain ⟨depth, rfl⟩ := Nat.exists_eq_add_of_le' (Nat.le_of_add_left_le hdepth)
    rw [Value.draft, Draft.value,
      memberValues_memberDrafts ms depth hn (Nat.le_of_add_le_add_right hdepth)]
    rfl

theorem values_drafts : ∀ (vs : List Value) (depth : Nat),
    (∀ n ∈ Value.itemNumerals vs, n.isOutOfRange = false) → Value.itemDepth vs ≤ depth →
      Draft.values depth (Value.drafts vs) = .ok vs
  | [], _, _, _ => rfl
  | v :: vs, depth, hn, hdepth => by
    obtain ⟨hv, hvs⟩ := List.forall_mem_append.mp hn
    obtain ⟨hvDepth, hvsDepth⟩ := Nat.max_le.mp hdepth
    rw [Value.drafts, Draft.values, value_draft v depth hv hvDepth,
      values_drafts vs depth hvs hvsDepth]
    rfl

theorem memberValues_memberDrafts : ∀ (ms : List (String × Value)) (depth : Nat),
    (∀ n ∈ Value.memberNumerals ms, n.isOutOfRange = false) → Value.memberDepth ms ≤ depth →
      Draft.memberValues depth (Value.memberDrafts ms) = .ok ms
  | [], _, _, _ => rfl
  | (_, v) :: ms, depth, hn, hdepth => by
    obtain ⟨hv, hms⟩ := List.forall_mem_append.mp hn
    obtain ⟨hvDepth, hmsDepth⟩ := Nat.max_le.mp hdepth
    rw [Value.memberDrafts, Draft.memberValues, value_draft v depth hv hvDepth,
      memberValues_memberDrafts ms depth hms hmsDepth]
    rfl

end

/-- **A value within the limits is read back** from its compact text. Its compact text has the
tokens of its draft, and the draft is read as the value. -/
theorem Decoder.wholeValue_compact {v : Value} (h : v.Fits depthLimit) :
    wholeValue v.compact = .ok v := by
  rw [wholeValue, text_compact _ h.isWellFormed]
  exact value_draft v depthLimit h.inRange h.depth_le

/-! ### Values within the limits -/

namespace Value.Fits

variable {α : Type} {depth : Nat} {encode : α → Value}

/-- A value without numerals is within the limits if it is not nested too deep. Most values that are
written have none. -/
theorem of_numerals_eq_nil {v : Value} (hnumerals : v.numerals = []) (hdepth : v.depth ≤ depth) :
    v.Fits depth where
  isWellFormed _ hn := absurd hn (hnumerals ▸ List.not_mem_nil)
  inRange _ hn := absurd hn (hnumerals ▸ List.not_mem_nil)
  depth_le := hdepth

theorem null (depth : Nat) : Value.null.Fits depth :=
  of_numerals_eq_nil rfl (Nat.zero_le depth)

theorem bool (b : Bool) : (Value.bool b).Fits depth :=
  of_numerals_eq_nil rfl (Nat.zero_le depth)

theorem string (s : String) : (Value.string s).Fits depth :=
  of_numerals_eq_nil rfl (Nat.zero_le depth)

theorem int32 (i : Int32) : (Value.int i.toInt).Fits depth :=
  ⟨List.forall_mem_singleton.mpr (Numeral.isWellFormed_ofInt _),
    List.forall_mem_singleton.mpr (Numeral.isOutOfRange_ofInt i), Nat.zero_le depth⟩

theorem option (h : ∀ a, (encode a).Fits depth) (a : Option α) :
    (Value.option encode a).Fits depth :=
  match a with
  | none => null depth
  | some a => h a

/-- An array takes one level more than its items. Nothing else is asked of it than of them. -/
theorem array {vs : List Value} (h : ∀ v ∈ vs, v.Fits depth) :
    (Value.array vs).Fits (depth + 1) := by
  induction vs with
  | nil => exact of_numerals_eq_nil rfl (Nat.le_add_left 1 depth)
  | cons v vs ih =>
    obtain ⟨hv, hvs⟩ := List.forall_mem_cons.mp h
    have hrest := ih hvs
    exact ⟨List.forall_mem_append.mpr ⟨hv.isWellFormed, hrest.isWellFormed⟩,
      List.forall_mem_append.mpr ⟨hv.inRange, hrest.inRange⟩,
      Nat.succ_le_succ (Nat.max_le.mpr ⟨hv.depth_le, Nat.le_of_succ_le_succ hrest.depth_le⟩)⟩

/-- A list takes one level more than what its items are written as. -/
theorem list (h : ∀ a, (encode a).Fits depth) (as : List α) :
    (Value.list encode as).Fits (depth + 1) :=
  array fun v hv => by
    obtain ⟨a, -, rfl⟩ := List.mem_map.mp hv
    exact h a

/-- An object takes one level more than its members. -/
theorem object {ms : List (String × Value)} (h : ∀ m ∈ ms, m.2.Fits depth) :
    (Value.object ms).Fits (depth + 1) := by
  induction ms with
  | nil => exact of_numerals_eq_nil rfl (Nat.le_add_left 1 depth)
  | cons m ms ih =>
    obtain ⟨hv, hms⟩ := List.forall_mem_cons.mp h
    have hrest := ih hms
    exact ⟨List.forall_mem_append.mpr ⟨hv.isWellFormed, hrest.isWellFormed⟩,
      List.forall_mem_append.mpr ⟨hv.inRange, hrest.inRange⟩,
      Nat.succ_le_succ (Nat.max_le.mpr ⟨hv.depth_le, Nat.le_of_succ_le_succ hrest.depth_le⟩)⟩

end Value.Fits

end Json

end EntityScript
