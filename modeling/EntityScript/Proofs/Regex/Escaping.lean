import EntityScript.Proofs.Unicode.CaseFolding
import EntityScript.Regex.Basic
import Mathlib.Data.List.Forall2

/-!
# Escaped patterns

Some characters of a pattern are signs with a meaning. A backslash before each of them makes of any
text a pattern that stands for the text itself: it is read as a sequence of characters
(`read?_escape`), and means one set of characters after the other. Such a sequence matches where the
characters of the text are in its sets one by one (`mem_ends_sequence`).

**Main statement**: an escaped text, compiled without regard to case, is found where a part of the
text has its characters up to case (`isMatch_escape_iff`). In ASCII this is a part with the same
small letters (`isMatch_escape_ascii_iff`).
-/

namespace EntityScript

namespace Regex

open Unicode (CharSet)

/-! ### Escaping -/

/-- The characters with a meaning of their own somewhere in a pattern. -/
def metacharacters : List Char :=
  ['\\', '.', '+', '*', '?', '(', ')', '|', '[', ']', '\x7b', '\x7d', '^', '$', '#', '&', '-', '~']

/-- A character as it is written to stand for itself. -/
def escapeChar (c : Char) : List Char :=
  if c ∈ metacharacters then ['\\', c] else [c]

/-- The pattern that stands for a text. -/
def escape (s : List Char) : List Char :=
  s.flatMap escapeChar

theorem escape_cons (c : Char) (s : List Char) : escape (c :: s) = escapeChar c ++ escape s :=
  List.flatMap_cons

theorem escapeChar_of_mem {c : Char} (hc : c ∈ metacharacters) : escapeChar c = ['\\', c] :=
  if_pos hc

theorem escapeChar_of_not_mem {c : Char} (hc : c ∉ metacharacters) : escapeChar c = [c] :=
  if_neg hc

theorem length_escapeChar_pos (c : Char) : 0 < (escapeChar c).length := by
  rw [escapeChar]
  split <;> exact Nat.zero_lt_succ _

/-! ### Reading an escaped text -/

/-- The character as a part of a pattern. -/
def literal (c : Char) : Pattern :=
  .literal ⟨c, false⟩

/-- Without the flag for it, nothing is passed over between the parts of a pattern. The flag is for
patterns with white space and comments in them. -/
theorem skip_false (s : List Char) : skip false s = s :=
  rfl

theorem readEscape_of_mem {c : Char} (hc : c ∈ metacharacters) (s : List Char) :
    readEscape false (c :: s) = some (.literal ⟨c, false⟩, s) := by
  simp only [metacharacters, List.mem_cons, List.not_mem_nil, or_false] at hc
  rcases hc with rfl | rfl | rfl | rfl | rfl | rfl | rfl | rfl | rfl | rfl | rfl | rfl | rfl | rfl |
    rfl | rfl | rfl | rfl <;> rfl

theorem readPattern_escaped {c : Char} (hc : c ∈ metacharacters) (fuel : Nat)
    (names : List (List Char)) (branches parts : List Pattern) (s : List Char) :
    readPattern (fuel + 1) false names branches parts ('\\' :: c :: s) =
      readPattern fuel false names branches (literal c :: parts) s := by
  simp only [readPattern, skip_false, readEscape_of_mem hc, Option.bind_eq_bind, Option.bind_some]
  rfl

/-- A character without a meaning of its own is a part of the pattern. Each sign that the reader
looks for has to be excluded. -/
theorem readPattern_plain {c : Char} (hc : c ∉ metacharacters) (fuel : Nat)
    (names : List (List Char)) (branches parts : List Pattern) (s : List Char) :
    readPattern (fuel + 1) false names branches parts (c :: s) =
      readPattern fuel false names branches (literal c :: parts) s := by
  have hsign : repetitionSign? c = none := by
    simp only [metacharacters, List.mem_cons, not_or] at hc
    obtain ⟨-, -, hplus, hstar, hmark, -⟩ := hc
    rw [repetitionSign?, if_neg hmark, if_neg hstar, if_neg hplus]
  rw [readPattern, skip_false]
  -- Each of the signs that are looked for is one of the metacharacters.
  split
  case h_1 heq => cases heq
  case h_11 heq =>
    cases heq
    rw [hsign]
    rfl
  all_goals
    next heq =>
      cases heq
      exact absurd (by decide) hc

/-- Whichever way it is written, a character is one part of the pattern. This is the step of the
induction for escaped texts. -/
theorem readPattern_escapeChar (c : Char) (fuel : Nat) (names : List (List Char))
    (branches parts : List Pattern) (s : List Char) :
    readPattern (fuel + 1) false names branches parts (escapeChar c ++ s) =
      readPattern fuel false names branches (literal c :: parts) s := by
  by_cases hc : c ∈ metacharacters
  · rw [escapeChar_of_mem hc]
    exact readPattern_escaped hc fuel names branches parts s
  · rw [escapeChar_of_not_mem hc]
    exact readPattern_plain hc fuel names branches parts s

/-- **An escaped text** is read character by character. The induction is on the text, with the parts
that have been read in reverse. -/
theorem readPattern_escape (s : List Char) {fuel : Nat} (h : (escape s).length < fuel)
    (names : List (List Char)) (parts : List Pattern) :
    readPattern fuel false names [] parts (escape s) =
      some ⟨.ofParts (parts.reverse ++ s.map literal), names, []⟩ := by
  obtain ⟨fuel, rfl⟩ := Nat.exists_eq_add_one_of_ne_zero (Nat.ne_zero_of_lt h)
  induction s generalizing fuel parts with
  | nil =>
    rw [List.map_nil, List.append_nil]
    rfl
  | cons c s ih =>
    have hpos := length_escapeChar_pos c
    rw [escape_cons, List.length_append] at h
    have hlater : (escape s).length < fuel := by omega
    obtain ⟨fuel, rfl⟩ := Nat.exists_eq_add_one_of_ne_zero (Nat.ne_zero_of_lt hlater)
    rw [escape_cons, readPattern_escapeChar, ih _ fuel hlater, List.reverse_cons,
      List.append_assoc, List.map_cons]
    rfl

/-- Characters have no depth. -/
theorem depths_map_literal (s : List Char) : Pattern.depths (s.map literal) = 0 := by
  induction s with
  | nil => rfl
  | cons c s ih =>
    rw [List.map_cons, Pattern.depths, ih]
    rfl

/-- A sequence is at most one level deeper than its parts. -/
theorem depth_ofParts_le (parts : List Pattern) :
    (Pattern.ofParts parts).depth ≤ Pattern.depths parts + 1 := by
  match parts with
  | [] => exact Nat.zero_le _
  | [p] =>
    rw [Pattern.ofParts, Pattern.depths]
    omega
  | p :: q :: parts => exact Nat.le_refl _

/-- The pattern of an escaped text is the sequence of its characters, and it is never too deep. The
reader needs as much fuel as there are characters, and no group is opened. -/
theorem read?_escape (s : List Char) :
    Pattern.read? (escape s) = some (.ofParts (s.map literal)) := by
  have hdepth : (Pattern.ofParts (s.map literal)).depth ≤ depthLimit :=
    Nat.le_trans (depth_ofParts_le _) (by rw [depths_map_literal]; decide)
  rw [Pattern.read?, readPattern_escape s (Nat.lt_succ_self _)]
  simp only [Option.bind_eq_bind, Option.bind_some, List.reverse_nil, List.nil_append,
    List.isEmpty_nil, hdepth, decide_true, Bool.and_self, if_true]

/-! ### Sequences of sets -/

/-- The expression of sets one after the other. -/
def sequence : List CharSet → Expr
  | [] => .empty
  | [s] => .set s
  | s :: sets => .concat (.set s) (sequence sets)

/-- A sequence of parts means the sequence of what they mean, also where there is one part or
none. -/
theorem expr?_ofParts (f : Flags) (parts : List Pattern) :
    (Pattern.ofParts parts).expr? f = Pattern.concat? f parts :=
  match parts with
  | [] => rfl
  | [_] => rfl
  | _ :: _ :: _ => rfl

/-- Without regard to case a character means its orbit, which is the set of all characters that are
the same up to case. -/
theorem concat?_map_literal (s : List Char) :
    Pattern.concat? { caseInsensitive := true } (s.map literal) =
      some (sequence (s.map (CharSet.orbit ·.toNat)), { caseInsensitive := true }) := by
  match s with
  | [] => rfl
  | [c] => rfl
  | c :: d :: s =>
    have hc : (literal c).expr? { caseInsensitive := true } =
        some (.set (CharSet.orbit c.toNat), { caseInsensitive := true }) := rfl
    have ih := concat?_map_literal (d :: s)
    rw [List.map_cons] at ih
    rw [List.map_cons, List.map_cons, Pattern.concat?, hc]
    · simp only [Option.bind_eq_bind, Option.bind_some, ih]
      rfl
    · exact nofun

theorem ends_sequence_cons (text : Array Char) (s : CharSet) (sets : List CharSet)
    (places : List Nat) :
    (sequence (s :: sets)).ends text places =
      (sequence sets).ends text ((Expr.set s).ends text places) := by
  cases sets <;> rfl

/-- A set is matched by one character that is in it. -/
theorem mem_ends_set {text : List Char} {s : CharSet} {places : List Nat} {j : Nat} :
    j ∈ (Expr.set s).ends text.toArray places ↔
      ∃ i ∈ places, ∃ c, text[i]? = some c ∧ s.contains c = true ∧ j = i + 1 := by
  simp only [Expr.ends, List.mem_filterMap, List.getElem?_toArray]
  refine exists_congr fun i => and_congr_right fun _ => ?_
  cases text[i]? with
  | none => exact iff_of_false nofun fun ⟨_, hc, _⟩ => nomatch hc
  | some c =>
    simp only [Option.some.injEq, exists_eq_left']
    split
    · next hs => simp only [Option.some.injEq, hs, true_and, eq_comm]
    · next hs => simp only [reduceCtorEq, hs, false_and]

/-- What begins at a place begins with the character there and goes on at the next one. With this, a
sequence is matched character by character. -/
theorem cons_prefix_drop_iff {text v : List Char} {c : Char} {i : Nat} :
    c :: v <+: text.drop i ↔ text[i]? = some c ∧ v <+: text.drop (i + 1) := by
  by_cases hi : i < text.length
  · rw [List.drop_eq_getElem_cons hi, List.cons_prefix_cons, List.getElem?_eq_getElem hi,
      Option.some.injEq, eq_comm]
  · rw [List.drop_eq_nil_of_le (Nat.le_of_not_lt hi), List.getElem?_eq_none (Nat.le_of_not_lt hi)]
    exact iff_of_false (by simp) nofun

/-- The characters of the text are in the sets one by one. -/
def InSets (sets : List CharSet) (v : List Char) : Prop :=
  List.Forall₂ (fun s c => CharSet.contains s c = true) sets v

/-- A sequence gets from one place to another over characters that are in its sets one by one. The
induction is on the sets, with the places generalised. -/
theorem mem_ends_sequence {text : List Char} {sets : List CharSet} {places : List Nat} {j : Nat} :
    j ∈ (sequence sets).ends text.toArray places ↔
      ∃ i ∈ places, ∃ v, v <+: text.drop i ∧ InSets sets v ∧ j = i + v.length := by
  induction sets generalizing places with
  | nil =>
    simp only [sequence, Expr.ends, InSets, List.forall₂_nil_left_iff]
    constructor
    · exact fun hj => ⟨j, hj, [], List.nil_prefix, rfl, rfl⟩
    · rintro ⟨i, hi, v, -, rfl, rfl⟩
      exact hi
  | cons s sets ih =>
    -- The places after the first set are those one character further, and from these the rest goes
    -- on.
    rw [ends_sequence_cons, ih]
    simp only [mem_ends_set, InSets, List.forall₂_cons_left_iff]
    constructor
    · rintro ⟨_, ⟨i, hi, c, hc, hs, rfl⟩, v, hv, hsets, rfl⟩
      refine ⟨i, hi, c :: v, cons_prefix_drop_iff.mpr ⟨hc, hv⟩, ⟨c, v, hs, hsets, rfl⟩, ?_⟩
      rw [List.length_cons, Nat.add_comm v.length, Nat.add_assoc]
    · rintro ⟨i, hi, _, hv, ⟨c, v, hs, hsets, rfl⟩, rfl⟩
      obtain ⟨hc, hv⟩ := cons_prefix_drop_iff.mp hv
      refine ⟨i + 1, ⟨i, hi, c, hc, hs, rfl⟩, v, hv, hsets, ?_⟩
      rw [List.length_cons, Nat.add_comm v.length, Nat.add_assoc]

/-- **A sequence of sets** matches where the characters of a part of the text are in the sets. A
match may begin at any place of the text. -/
theorem isMatch_sequence_iff {text : List Char} {sets : List CharSet} :
    (sequence sets).isMatch text = true ↔ ∃ v, v <:+: text ∧ InSets sets v := by
  simp only [Expr.isMatch, Bool.not_eq_true', List.isEmpty_eq_false_iff_exists_mem,
    mem_ends_sequence]
  constructor
  · rintro ⟨j, i, -, v, hv, hsets, -⟩
    exact ⟨v, hv.isInfix.trans (List.drop_suffix i text).isInfix, hsets⟩
  · rintro ⟨v, ⟨u, w, rfl⟩, hsets⟩
    refine ⟨u.length + v.length, u.length, ?_, v, ?_, hsets, rfl⟩
    · rw [List.mem_range, List.size_toArray, List.length_append, List.length_append]
      omega
    · rw [List.append_assoc, List.drop_left]
      exact List.prefix_append v w

/-! ### Escaped texts -/

/-- An escaped text is compiled if the machine for its characters is not too large. It is always
read, so nothing else can go wrong. -/
theorem compile?_escape (s : List Char) :
    compile? (escape s) =
      if (sequence (s.map (CharSet.orbit ·.toNat))).fits then
        some ⟨sequence (s.map (CharSet.orbit ·.toNat))⟩
      else none := by
  simp only [compile?, read?_escape, Option.bind_eq_bind, Option.bind_some, expr?_ofParts,
    concat?_map_literal]

/-- **An escaped text**, if it is compiled, is found where a part of the text has its characters up
to case. -/
theorem isMatch_escape_iff {s text : List Char} {r : Regex} (h : compile? (escape s) = some r) :
    r.isMatch text = true ↔
      ∃ v, v <:+: text ∧
        List.Forall₂ (fun c d => (CharSet.orbit c.toNat).contains d = true) s v := by
  rw [compile?_escape, Option.ite_none_right_eq_some] at h
  obtain ⟨-, h⟩ := h
  cases h
  rw [isMatch, isMatch_sequence_iff]
  simp only [InSets, List.forall₂_map_left_iff]

/-- In ASCII a character is in the orbit of another one when the small letters are the same. That an
orbit may have characters outside of ASCII as well is of no matter here. -/
theorem forall₂_orbit_iff {s v : List Char} (hs : Text.IsAscii s) (hv : Text.IsAscii v) :
    List.Forall₂ (fun c d => (CharSet.orbit c.toNat).contains d = true) s v ↔
      s.map Char.toLower = v.map Char.toLower := by
  induction s generalizing v with
  | nil => rw [List.forall₂_nil_left_iff, List.map_nil, List.nil_eq, List.map_eq_nil_iff]
  | cons c s ih =>
    cases v with
    | nil => exact iff_of_false nofun nofun
    | cons d v =>
      obtain ⟨hc, hs⟩ := Text.isAscii_cons.mp hs
      obtain ⟨hd, hv⟩ := Text.isAscii_cons.mp hv
      rw [List.forall₂_cons, CharSet.contains_orbit_iff hc hd, ih hs hv, List.map_cons,
        List.map_cons, List.cons.injEq]

theorem toLower_mem_metacharacters_iff {c : Char} (h : c.toNat < 0x80) :
    c.toLower ∈ metacharacters ↔ c ∈ metacharacters :=
  Text.of_ascii (P := fun c => c.toLower ∈ metacharacters ↔ c ∈ metacharacters) (by decide) h

/-- A character may be lowered before it is escaped or after it. -/
theorem map_toLower_escapeChar {c : Char} (h : c.toNat < 0x80) :
    (escapeChar c).map Char.toLower = escapeChar c.toLower := by
  by_cases hc : c ∈ metacharacters
  · rw [escapeChar_of_mem hc, escapeChar_of_mem ((toLower_mem_metacharacters_iff h).mpr hc)]
    rfl
  · rw [escapeChar_of_not_mem hc,
      escapeChar_of_not_mem (mt (toLower_mem_metacharacters_iff h).mp hc)]
    rfl

/-- Escaping stays within ASCII. A backslash is a character of ASCII. -/
theorem isAscii_escape {s : List Char} (h : Text.IsAscii s) : Text.IsAscii (escape s) := by
  intro c hc
  obtain ⟨d, hd, hc⟩ := List.mem_flatMap.mp hc
  rw [escapeChar] at hc
  split at hc
  · rcases List.mem_cons.mp hc with rfl | hc
    · decide
    · exact List.mem_singleton.mp hc ▸ h d hd
  · exact List.mem_singleton.mp hc ▸ h d hd

/-- **Lowering and escaping** can be done in either order, as a letter of ASCII does not become a
sign by it and no sign another one. -/
theorem lower_escape {s : List Char} (h : Text.IsAscii s) :
    Text.lower (escape s) = escape (Text.lower s) := by
  rw [Text.lower_eq_map (isAscii_escape h), Text.lower_eq_map h]
  induction s with
  | nil => rfl
  | cons c s ih =>
    obtain ⟨hc, hs⟩ := Text.isAscii_cons.mp h
    rw [escape_cons, List.map_append, map_toLower_escapeChar hc, ih hs, List.map_cons, escape_cons]

/-- **In ASCII** an escaped text is found where it occurs up to the case of letters. This is the
form in which rules of both kinds are compared. -/
theorem isMatch_escape_ascii_iff {s text : List Char} {r : Regex}
    (h : compile? (escape s) = some r) (hs : Text.IsAscii s) (htext : Text.IsAscii text) :
    r.isMatch text = true ↔ s.map Char.toLower <:+: text.map Char.toLower := by
  rw [isMatch_escape_iff h, List.infix_map_iff]
  refine exists_congr fun v => and_congr_right fun hv => forall₂_orbit_iff hs fun c hc => ?_
  exact htext c (hv.subset hc)

end Regex

end EntityScript
