import EntityScript.Proofs.Text.Ascii
import EntityScript.Unicode.CharSet

/-!
# Characters up to case

The normal form of a list of ranges has the same code points as the list (`CharSet.mem_normalize`),
so the orbit of a character consists of what it folds to and of all that folds to that
(`CharSet.mem_orbit`). The first shift of the table moves the capital letters of ASCII, and every
other shift begins outside of ASCII.

**Main statement**: a character of ASCII is in the orbit of another one exactly when the two have
the same small form (`CharSet.contains_orbit_iff`). The orbit may have characters outside of ASCII
as well.
-/

namespace EntityScript

namespace Unicode

namespace CharSet

open Text.Case

/-! ### Normal form -/

/-- The ranges of the list begin in ascending order. -/
def IsAscending (ranges : List (Nat × Nat)) : Prop :=
  ranges.Pairwise fun a b => a.1 ≤ b.1

theorem mem_cons {r : Nat × Nat} {rs : CharSet} {n : Nat} :
    mem (r :: rs) n = true ↔ (r.1 ≤ n ∧ n ≤ r.2) ∨ mem rs n = true := by
  simp only [mem, List.any_cons, Bool.or_eq_true, Bool.and_eq_true, decide_eq_true_eq]

theorem mem_eq_true_iff {ranges : List (Nat × Nat)} {n : Nat} :
    mem ranges n = true ↔ ∃ r ∈ ranges, r.1 ≤ n ∧ n ≤ r.2 := by
  simp only [mem, List.any_eq_true, Bool.and_eq_true, decide_eq_true_eq]

/-- Sorted ranges ascend. -/
theorem isAscending_mergeSort (ranges : List (Nat × Nat)) :
    IsAscending (ranges.mergeSort fun a b => a.1 ≤ b.1) := by
  have hsorted : (ranges.mergeSort fun a b => a.1 ≤ b.1).Pairwise
      fun a b => decide (a.1 ≤ b.1) = true :=
    List.pairwise_mergeSort (fun a b c => by simpa only [decide_eq_true_eq] using Nat.le_trans)
      (fun a b => by simpa only [Bool.or_eq_true, decide_eq_true_eq] using Nat.le_total a.1 b.1)
      ranges
  simpa only [IsAscending, decide_eq_true_eq] using hsorted

/-- Joining ranges that touch or overlap changes nothing but how the set is written. The induction
is on the ranges, with the one that grows generalised. -/
theorem mem_joinRanges {current : Nat × Nat} {rs : CharSet} (h : IsAscending (current :: rs))
    {n : Nat} : (joinRanges current rs).mem n = true ↔ mem (current :: rs) n = true := by
  induction rs generalizing current with
  | nil => rfl
  | cons r rs ih =>
    obtain ⟨hcurrent, hrest⟩ := List.pairwise_cons.mp h
    have hr := hcurrent r List.mem_cons_self
    rw [joinRanges]
    split
    · next htouch =>
      have hjoined : IsAscending ((current.1, max current.2 r.2) :: rs) :=
        List.pairwise_cons.mpr
          ⟨fun q hq => hcurrent q (List.mem_cons_of_mem r hq), (List.pairwise_cons.mp hrest).2⟩
      rw [ih hjoined, mem_cons, mem_cons, mem_cons, ← or_assoc]
      -- The ranges touch and ascend, so their union is the range from the first start to the later
      -- end.
      refine or_congr_left ?_
      omega
    · rw [mem_cons, ih hrest, ← mem_cons]

/-- **The normal form** of ranges has the code points of the ranges. Sorting moves ranges, joining
merges them, and neither changes what is covered. -/
theorem mem_normalize {ranges : List (Nat × Nat)} {n : Nat} :
    (normalize ranges).mem n = true ↔ mem ranges n = true := by
  have hmem : mem (ranges.mergeSort fun a b => a.1 ≤ b.1) n = mem ranges n :=
    (List.mergeSort_perm ..).any_eq
  have hsorted := isAscending_mergeSort ranges
  rw [← hmem, normalize]
  split
  · next hnil => rw [hnil]
  · next r rs hcons => rw [hcons, mem_joinRanges (hcons ▸ hsorted)]

/-! ### Orbits -/

/-- The orbit of a character has what the character folds to, and what folds to that. -/
theorem mem_orbit {m n : Nat} :
    (orbit n).mem m = true ↔ m = foldPoint n ∨ m ∈ foldedTo (foldPoint n) := by
  rw [orbit, mem_normalize, mem_eq_true_iff, ← List.mem_cons]
  constructor
  · rintro ⟨r, hr, hle, hge⟩
    obtain ⟨k, hk, rfl⟩ := List.mem_map.mp hr
    exact Nat.le_antisymm hge hle ▸ hk
  · exact fun hm => ⟨(m, m), List.mem_map_of_mem hm, Nat.le_refl m, Nat.le_refl m⟩

/-- The orbit of a character to which one other character folds has the two of them and no
others. -/
theorem orbit_eq_pair {m n : Nat} (hself : foldPoint n = n) (hother : foldedTo n = [m])
    (h : m + 1 < n) : orbit n = [(m, m), (n, n)] := by
  have hle : ¬ n ≤ m := by omega
  have hgap : ¬ n ≤ m + 1 := by omega
  simp [orbit, hself, hother, normalize, List.mergeSort, List.MergeSort.Internal.splitInTwo,
    joinRanges, hle, hgap]

/-! ### Orbits in ASCII -/

theorem foldShifts_cases : ∀ s ∈ foldShifts,
    (s.first = 0x41 ∧ s.last = 0x5A ∧ s.step = 1 ∧ s.distance = 32) ∨ 0x80 ≤ s.first := by
  decide +kernel

/-- What covers a character of ASCII is the shift of the capital letters. The others begin outside
of ASCII, so they cannot cover it. -/
theorem of_covers {s : Shift} (hs : s ∈ foldShifts) {n : Nat} (h : n < 0x80)
    (hcovers : s.covers n = true) : 0x41 ≤ n ∧ n ≤ 0x5A ∧ s.distance = 32 := by
  simp only [Shift.covers, Bool.and_eq_true, decide_eq_true_eq] at hcovers
  rcases foldShifts_cases s hs with ⟨hfirst, hlast, -, hdistance⟩ | hfirst
  · exact ⟨hfirst ▸ hcovers.1.1, hlast ▸ hcovers.1.2, hdistance⟩
  · omega

theorem covers_of_capital {n : Nat} (hfirst : 0x41 ≤ n) (hlast : n ≤ 0x5A) :
    Shift.covers ⟨0x41, 0x5A, 1, 32⟩ n = true := by
  simp only [Shift.covers, Nat.mod_one, hfirst, hlast, decide_true, Bool.and_self, beq_self_eq_true]

/-- **In ASCII** capital letters fold to small ones, and everything else to itself. The table is
searched for a shift that covers the character, and finds the first or none. -/
theorem foldPoint_of_lt {n : Nat} (h : n < 0x80) :
    foldPoint n = if 0x41 ≤ n ∧ n ≤ 0x5A then n + 32 else n := by
  rw [foldPoint, shiftBy]
  split
  · next s hs =>
    have hcovers := List.find?_some hs
    obtain ⟨hfirst, hlast, hdistance⟩ := of_covers (List.mem_of_find?_eq_some hs) h hcovers
    rw [if_pos ⟨hfirst, hlast⟩, Shift.move, hdistance]
    omega
  · next hnone =>
    refine (if_neg ?_).symm
    rintro ⟨hfirst, hlast⟩
    exact List.find?_eq_none.mp hnone _ List.mem_cons_self (covers_of_capital hfirst hlast)

/-- In ASCII, to fold a character is to lower it. Both move capital letters by the same distance. -/
theorem foldPoint_toNat {c : Char} (h : c.toNat < 0x80) : foldPoint c.toNat = c.toLower.toNat := by
  rw [foldPoint_of_lt h]
  exact Text.of_ascii
    (P := fun c => (if 0x41 ≤ c.toNat ∧ c.toNat ≤ 0x5A then c.toNat + 32 else c.toNat) =
      c.toLower.toNat) (by decide +kernel) h

/-- Of ASCII, the capital letters and nothing else fold to another character. Outside of ASCII there
are more, such as the Kelvin sign. -/
theorem mem_foldedTo {m target : Nat} (hm : m < 0x80) :
    m ∈ foldedTo target ↔ 0x41 ≤ m ∧ m ≤ 0x5A ∧ target = m + 32 := by
  simp only [foldedTo, List.mem_filterMap]
  constructor
  · rintro ⟨s, hs, h⟩
    split at h
    · next hcovers =>
      cases h
      obtain ⟨hfirst, hlast, hdistance⟩ := of_covers hs hm hcovers
      exact ⟨hfirst, hlast, by omega⟩
    · cases h
  · -- The capitals are the first range of the table.
    rintro ⟨hfirst, hlast, rfl⟩
    refine ⟨_, List.mem_cons_self, ?_⟩
    have hback : (((m + 32 : Nat) : Int) - 32).toNat = m := by omega
    rw [hback, if_pos (covers_of_capital hfirst hlast)]

/-- **Characters of ASCII are equal up to case** when they have the same small form. Two characters
are in one orbit if they fold to the same one. -/
theorem contains_orbit_iff {c d : Char} (hc : c.toNat < 0x80) (hd : d.toNat < 0x80) :
    (orbit c.toNat).contains d = true ↔ c.toLower = d.toLower := by
  rw [contains, mem_orbit, mem_foldedTo hd, ← Char.toNat_inj, ← foldPoint_toNat hc,
    ← foldPoint_toNat hd, foldPoint_of_lt hc, foldPoint_of_lt hd]
  split <;> split <;> omega

/-- The Kelvin sign is equal to `k` up to case. -/
example : (orbit 'k'.toNat).contains (Char.ofNat 0x212A) = true :=
  mem_orbit.mpr (.inr (by decide +kernel))

end CharSet

end Unicode

end EntityScript
