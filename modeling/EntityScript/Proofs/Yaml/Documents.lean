import EntityScript.Proofs.Yaml.Tokens

/-!
# Written documents

Whatever texts are in it, a document is written with allowed characters only
(`all_isAllowed_writeMembers`): a character that is not printable is written by its escape. So the
reader of layouts takes it up, and finds the tokens of its members (`tokens?_document`).
-/

namespace EntityScript

namespace Yaml

variable {s : List Char}

theorem isAllowed_of_isPrintable {c : Char} (h : isPrintable c = true) : isAllowed c = true := by
  simp only [isPrintable, isAllowed, Bool.or_eq_true, Bool.and_eq_true, beq_iff_eq,
    decide_eq_true_eq] at h ⊢
  omega

theorem all_isAllowed_of_isPrintable (h : ∀ c ∈ s, isPrintable c = true) :
    s.all isAllowed = true :=
  List.all_eq_true.mpr fun c hc => isAllowed_of_isPrintable (h c hc)

theorem all_isAllowed_spaces (n : Nat) : (spaces n).all isAllowed = true := by
  rw [spaces, List.all_replicate]
  split <;> rfl

/-! ### Styles -/

/-- A text in single quotes is allowed as it is, with more quotes and blanks. A text with other
characters is not written in this style. -/
theorem all_isAllowed_singleQuotedBody (indent : Nat) (broken : Bool)
    (h : s.all isAllowed = true) : (singleQuotedBody indent broken s).all isAllowed = true := by
  have hspaces := all_isAllowed_spaces indent
  induction s generalizing broken with
  | nil =>
    rw [singleQuotedBody]
    split
    · exact hspaces
    · rfl
  | cons c s ih =>
    rw [List.all_cons, Bool.and_eq_true] at h
    rw [singleQuotedBody]
    split
    all_goals
      simp only [List.all_append, List.all_cons, h.1, ih _ h.2, Bool.and_true]
      repeat' split
      all_goals simp [hspaces]
      all_goals decide

/-- The lines of a literal scalar are allowed as they are, with more blanks. A text with other
characters is not written in this style either. -/
theorem all_isAllowed_literalBody (indent : Nat) (broken : Bool)
    (h : s.all isAllowed = true) : (literalBody indent broken s).all isAllowed = true := by
  induction s generalizing broken with
  | nil => rfl
  | cons c s ih =>
    rw [List.all_cons, Bool.and_eq_true] at h
    have hspaces : (if broken then spaces indent else []).all isAllowed = true := by
      split
      · exact all_isAllowed_spaces indent
      · rfl
    rw [literalBody]
    split
    all_goals simp only [List.all_append, List.all_cons, h.1, ih _ h.2, hspaces, Bool.and_true]

/-- Hexadecimal digits are allowed. -/
theorem all_isAllowed_upperHex (width n : Nat) : (upperHex width n).all isAllowed = true := by
  induction width generalizing n with
  | zero => rfl
  | succ width ih =>
    have hdigit : ∀ d < 16, isAllowed (Nat.digitChar d).toUpper = true := by decide
    rw [upperHex, List.all_append, ih]
    simpa [upperHexDigit] using hdigit (n % 16) (Nat.mod_lt _ (by decide))

/-- The letters of escapes are allowed. -/
theorem isAllowed_of_escapeLetter? {c letter : Char} (h : escapeLetter? c = some letter) :
    isAllowed letter = true := by
  unfold escapeLetter? at h
  split at h
  all_goals cases h
  all_goals decide

/-- In double quotes every character is written with allowed ones, as it is escaped if it is not one
itself. -/
theorem all_isAllowed_doubleQuotedChar (c : Char) : (doubleQuotedChar c).all isAllowed = true := by
  unfold doubleQuotedChar
  split
  · unfold escapeOf
    split
    · next letter hletter =>
      simp only [List.all_cons, isAllowed_of_escapeLetter? hletter, List.all_nil, Bool.and_true]
      decide
    · dsimp only
      repeat' split
      all_goals
        simp only [List.all_cons, all_isAllowed_upperHex, Bool.and_true]
        decide
  · next hprintable =>
    simp only [Bool.or_eq_true, not_or, Bool.not_eq_true', Bool.not_eq_false] at hprintable
    simp only [List.all_cons, isAllowed_of_isPrintable hprintable.1.1.1, List.all_nil,
      Bool.and_true]

theorem all_isAllowed_indentationHint (s : List Char) :
    (indentationHint s).all isAllowed = true := by
  unfold indentationHint
  split <;> decide

theorem all_isAllowed_chompingHint (s : List Char) : (chompingHint s).all isAllowed = true := by
  unfold chompingHint
  repeat' split
  all_goals decide

/-- **A text is written with allowed characters**, whatever its own are. A text with characters that
are not printable is written in double quotes. -/
theorem all_isAllowed_writeScalar (indent : Nat) (s : List Char) :
    (writeScalar indent s).all isAllowed = true := by
  have hstyle := Layout.of_styleOf s
  rw [writeScalar]
  generalize styleOf s = style at hstyle ⊢
  cases style with
  | plain =>
    exact all_isAllowed_of_isPrintable
      (isPrintable_of_needsEscapes_eq_false (allowsPlain_iff.mp hstyle.2).1)
  | singleQuoted =>
    have hbody := all_isAllowed_singleQuotedBody indent false
      (all_isAllowed_of_isPrintable hstyle.printable)
    simp only [List.all_append, List.all_cons, List.all_nil, hbody, Bool.and_true]
    decide
  | doubleQuoted =>
    have hbody : (s.flatMap doubleQuotedChar).all isAllowed = true := by
      simp only [List.all_flatMap, all_isAllowed_doubleQuotedChar, List.all_eq_true, implies_true]
    simp only [List.all_append, List.all_cons, List.all_nil, hbody, Bool.and_true]
    decide
  | literal =>
    have hbody := all_isAllowed_literalBody indent true (all_isAllowed_of_isPrintable hstyle.2)
    simp only [List.all_append, List.all_cons, hbody, all_isAllowed_indentationHint,
      all_isAllowed_chompingHint, Bool.and_true]
    decide
  | folded => exact hstyle.elim

/-! ### Values -/

namespace Value

/-- A line end adds at most one allowed character. -/
theorem all_isAllowed_endLine (h : s.all isAllowed = true) : (endLine s).all isAllowed = true := by
  rw [endLine]
  split
  · exact h
  · simp only [List.all_append, h]
    decide

theorem all_isAllowed_member {a b : List Char} (indent : Nat) (key : String)
    (ha : a.all isAllowed = true) (hb : b.all isAllowed = true) :
    (writeScalar indent key.toList ++ ':' :: a ++ b).all isAllowed = true := by
  simp only [List.all_append, List.all_cons, all_isAllowed_writeScalar, ha, hb, Bool.and_true]
  decide

mutual

/-- What is written behind a key is allowed. -/
theorem all_isAllowed_writeAfter :
    ∀ (v : Value) (x : Nat), v.IsReadable → (v.writeAfter x).all isAllowed = true
  | .word s, x, h => by
    rw [IsReadable] at h
    have hword := all_isAllowed_of_isPrintable
      (isPrintable_of_needsEscapes_eq_false (allowsPlain_iff.mp h.2).1)
    unfold writeAfter
    simp only [List.all_append, List.all_cons, hword]
    decide
  | .text s, x, _ => by
    unfold writeAfter
    refine all_isAllowed_endLine ?_
    simp only [List.all_cons, all_isAllowed_writeScalar]
    decide
  | .sequence [], x, _ => by
    unfold writeAfter
    decide
  | .sequence (v :: vs), x, h => by
    rw [IsReadable] at h
    unfold writeAfter
    exact all_isAllowed_writeItems (v :: vs) x h
  | .mapping [], x, _ => by
    unfold writeAfter
    decide
  | .mapping (member :: members), x, h => by
    rw [IsReadable] at h
    unfold writeAfter
    exact all_isAllowed_writeMembers (member :: members) (x + 2) h.2

/-- What is written of items is allowed. -/
theorem all_isAllowed_writeItems :
    ∀ (vs : List Value) (x : Nat), AreReadable vs → (writeItems x vs).all isAllowed = true
  | [], x, _ => by rw [writeItems, List.all_nil]
  | .mapping ((key, v) :: members) :: vs, x, h => by
    rw [AreReadable, IsReadable, HaveReadable] at h
    obtain ⟨⟨-, -, ⟨-, hv⟩, hmembers⟩, hvs⟩ := h
    have hmember := all_isAllowed_member (x + 4) key (all_isAllowed_writeAfter v (x + 2) hv)
      (all_isAllowed_writeMembers members (x + 2) hmembers)
    rw [writeItems, writeItem]
    simp only [List.cons_append, List.all_append, List.all_cons, all_isAllowed_spaces,
      all_isAllowed_writeItems vs x hvs, Bool.and_true, Bool.true_and] at hmember ⊢
    simp only [hmember]
    decide
  | .mapping [] :: _, _, h | .word _ :: _, _, h | .text _ :: _, _, h | .sequence _ :: _, _, h => by
    rw [AreReadable] at h
    exact h.1.1.elim

/-- **The lines of members hold allowed characters only.** Keys are written as texts are. -/
theorem all_isAllowed_writeMembers :
    ∀ (members : List (String × Value)) (x : Nat), HaveReadable members →
      (writeMembers x members).all isAllowed = true
  | [], x, _ => by rw [writeMembers, List.all_nil]
  | (key, v) :: members, x, h => by
    rw [HaveReadable] at h
    obtain ⟨⟨-, hv⟩, hmembers⟩ := h
    have hmember := all_isAllowed_member (x + 2) key (all_isAllowed_writeAfter v x hv)
      (all_isAllowed_writeMembers members x hmembers)
    rw [writeMembers]
    simp only [List.append_assoc] at hmember ⊢
    rw [List.all_append, all_isAllowed_spaces, hmember]
    rfl

end

end Value

/-! ### Tokens -/

namespace Layout

/-- What is left at the end of the text is the end of the mapping: a last token, and nothing to
fetch. -/
theorem readAll_of_faces {l : Layout} {ts : List Token} (h : l.Faces [] 0 ts [0]) (fuel : Nat) :
    (readAll (fuel + 1) l).map (·.tokens.toList) = some (ts ++ [.blockEnd]) := by
  obtain ⟨m, ⟨index, line, rfl⟩, hnext⟩ := h.exists_next? fun x hx =>
    Nat.le_of_eq (Option.some.inj hx).symm
  rw [readAll_succ, hnext]
  simp [finish, closeTo, inFlow, dropCandidate]

end Layout

open Value Layout

/-- **A written document has the tokens of its members.** Reading it begins at the first key, which
opens the mapping around all members. -/
theorem tokens?_document {members : List (String × Value)} (hne : members ≠ [])
    (h : HaveReadable members) :
    tokens? (document members).toList =
      some (.blockMappingStart :: memberTokens members ++ [.blockEnd]) := by
  obtain ⟨⟨key, v⟩, members, rfl⟩ := List.exists_cons_of_ne_nil hne
  have hallowed := all_isAllowed_writeMembers _ 0 h
  have hreadable := h
  rw [HaveReadable] at hreadable
  obtain ⟨⟨hkey, hv⟩, hmembers⟩ := hreadable
  have htext : writeMembers 0 ((key, v) :: members) =
      key.toList ++ ':' :: (v.writeAfter 0 ++ (writeMembers 0 members ++ (spaces 0 ++ []))) := by
    rw [writeMembers, writeScalar_of_isKeyword hkey]
    simp [spaces]
  have hstart : Faces { cursor := { rest := writeMembers 0 ((key, v) :: members) } }
      (key.toList ++ ':' :: (v.writeAfter 0 ++ (writeMembers 0 members ++ (spaces 0 ++ []))))
      0 [] [] :=
    .of_isAt ⟨0, 0, by rw [htext]⟩ (beginsToken_of_isKeyword hkey _)
  obtain ⟨l', hsteps, hfaces⟩ := exists_steps_block hkey (readsAfter_of_isReadable v hv)
    (readsMembers_of_haveReadable members hmembers) hmembers hstart (by simp) (Nat.le_refl 0)
    beginsToken_nil
  -- The reader's bound is one more than the length of the text, and each of the steps takes a
  -- character at least.
  obtain ⟨fuel, hfuel, hread⟩ := exists_readAll_of_steps hsteps (Nat.lt_succ_self _)
  obtain ⟨fuel, rfl⟩ := Nat.exists_eq_add_one_of_ne_zero (Nat.ne_zero_of_lt hfuel)
  rw [document, String.toList_ofList, tokens?, if_pos hallowed, hread, readAll_of_faces hfaces]
  rfl

end Yaml

end EntityScript
