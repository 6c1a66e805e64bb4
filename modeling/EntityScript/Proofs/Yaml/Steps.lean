import EntityScript.Proofs.Yaml.Gaps
import EntityScript.Yaml.Layout
import Mathlib.Logic.Relation

/-!
# Steps of the reader of layouts

A step takes one token off a text (`Layout.Step`): first the way to it is passed over and what ends
before it is ended (`Layout.next?`), then it is fetched. Where a run of steps leads, reading the
whole text goes on from there (`Layout.exists_readAll_of_steps`).

In block context, between two tokens of a written document, a layout is known up to its index and
line (`Layout.IsAt`), and what comes next is known with the column at which it stands
(`Layout.Faces`).
-/

namespace EntityScript

namespace Yaml

namespace Layout

/-! ### Steps -/

/-- The layout at the next token, with what ends before it ended. -/
def next? (l : Layout) : Option Layout :=
  (skipToToken (l.cursor.rest.length + 1) l).dropStale.map fun l => l.closeTo (some l.cursor.column)

/-- One token is taken off the text. -/
def Step (l l' : Layout) : Prop :=
  ∃ m, l.next? = some m ∧ m.fetch = some l' ∧ l'.cursor.rest.length < m.cursor.rest.length

/-- Several tokens are taken off the text. -/
abbrev Steps : Layout → Layout → Prop :=
  Relation.ReflTransGen Step

/-- A text is read token by token: on to the next one, which is fetched, or to the end. -/
theorem readAll_succ (fuel : Nat) (l : Layout) :
    readAll (fuel + 1) l = l.next?.bind fun m =>
      if m.cursor.rest.isEmpty then m.finish else m.fetch.bind (readAll fuel) := by
  rw [readAll, next?]
  cases (skipToToken (l.cursor.rest.length + 1) l).dropStale <;> rfl

/-- Passing over blanks, comments and line ends does not lengthen the text. -/
theorem length_rest_skipToToken_le (fuel : Nat) (l : Layout) :
    (skipToToken fuel l).cursor.rest.length ≤ l.cursor.rest.length := by
  have hadvance (c : Cursor) (n : Nat) : (c.advance n).rest.length ≤ c.rest.length := by
    simp [Cursor.advance]
  have hnextLine (c : Cursor) : c.nextLine.rest.length ≤ c.rest.length := by
    simp [Cursor.nextLine]
  have hcomment (c : Cursor) : c.skipComment.rest.length ≤ c.rest.length := by
    rw [Cursor.skipComment]
    split
    · exact hadvance c _
    · exact Nat.le_refl _
  induction fuel generalizing l with
  | zero => exact Nat.le_refl _
  | succ fuel ih =>
    have hmark : (if l.cursor.column == 0 && startsWith byteOrderMark l.cursor.rest then
        l.cursor.advance 1 else l.cursor).rest.length ≤ l.cursor.rest.length := by
      split
      · exact hadvance _ 1
      · exact Nat.le_refl _
    rw [skipToToken]
    -- Whether the mark is skipped does not matter any more.
    generalize (if l.cursor.column == 0 && startsWith byteOrderMark l.cursor.rest then
        l.cursor.advance 1 else l.cursor) = c at hmark ⊢
    have hblanks (n : Nat) : (c.advance n).skipComment.rest.length ≤ l.cursor.rest.length :=
      Nat.le_trans (hcomment _) (Nat.le_trans (hadvance c n) hmark)
    split
    · exact Nat.le_trans (ih _) (Nat.le_trans (hnextLine _) (hblanks _))
    · exact hblanks _

/-- The way to the next token does not lengthen the text. -/
theorem length_rest_le_of_next? {l m : Layout} (h : l.next? = some m) :
    m.cursor.rest.length ≤ l.cursor.rest.length := by
  obtain ⟨l₁, hfresh, rfl⟩ := Option.map_eq_some_iff.mp h
  obtain ⟨candidate, -, hrest⟩ := Option.bind_eq_some_iff.mp hfresh
  obtain ⟨outerCandidates, -, hl₁⟩ := Option.bind_eq_some_iff.mp hrest
  obtain rfl := Option.some.inj hl₁
  have hcursor (l : Layout) (column : Option Nat) : (l.closeTo column).cursor = l.cursor := by
    rw [closeTo]
    split <;> rfl
  rw [hcursor]
  exact length_rest_skipToToken_le _ l

/-- Reading the whole text goes on where the steps lead. Every step shortens the text, so there is
fuel left. -/
theorem exists_readAll_of_steps {l l' : Layout} (h : Steps l l') {fuel : Nat}
    (hfuel : l.cursor.rest.length < fuel) :
    ∃ fuel', l'.cursor.rest.length < fuel' ∧ readAll fuel l = readAll fuel' l' := by
  induction h with
  | refl => exact ⟨fuel, hfuel, rfl⟩
  | @tail l₁ l₂ _ hstep ih =>
    obtain ⟨fuel₁, hfuel₁, hread⟩ := ih
    obtain ⟨m, hnext, hfetch, hshorter⟩ := hstep
    have hle := length_rest_le_of_next? hnext
    obtain ⟨fuel₂, rfl⟩ := Nat.exists_eq_add_one_of_ne_zero (Nat.ne_zero_of_lt hfuel₁)
    have hempty : m.cursor.rest.isEmpty = false :=
      List.isEmpty_eq_false_iff.mpr (List.ne_nil_of_length_pos (Nat.zero_lt_of_lt hshorter))
    refine ⟨fuel₂, by omega, ?_⟩
    rw [hread, readAll_succ, hnext, Option.bind_some, hempty, hfetch]
    rfl

/-! ### Layouts between tokens -/

/-- The layout in block context with this text and these tokens, up to index and line. -/
def IsAt (l : Layout) (rest : List Char) (column : Nat) (ts : List Token) (columns : List Nat)
    (allowsKey : Bool) : Prop :=
  ∃ index line, l =
    { cursor := ⟨rest, index, line, column⟩, tokens := ts.toArray, columns, allowsKey }

section

variable {l : Layout} {rest : List Char} {column : Nat} {ts : List Token} {columns : List Nat}
  {allowsKey : Bool}

theorem IsAt.rest_eq (h : l.IsAt rest column ts columns allowsKey) : l.cursor.rest = rest := by
  obtain ⟨index, line, rfl⟩ := h
  rfl

theorem IsAt.column_eq (h : l.IsAt rest column ts columns allowsKey) :
    l.cursor.column = column := by
  obtain ⟨index, line, rfl⟩ := h
  rfl

theorem IsAt.columns_eq (h : l.IsAt rest column ts columns allowsKey) : l.columns = columns := by
  obtain ⟨index, line, rfl⟩ := h
  rfl

theorem IsAt.inFlow_eq (h : l.IsAt rest column ts columns allowsKey) : l.inFlow = false := by
  obtain ⟨index, line, rfl⟩ := h
  rfl

theorem IsAt.dropCandidate_eq (h : l.IsAt rest column ts columns allowsKey) :
    l.dropCandidate = some l := by
  obtain ⟨index, line, rfl⟩ := h
  rfl

/-- What cannot be a key is no candidate, and so the layout stays as it is. -/
theorem IsAt.addCandidate_eq (h : l.IsAt rest column ts columns false) :
    l.addCandidate = some l := by
  obtain ⟨index, line, rfl⟩ := h
  rfl

theorem IsAt.emit (h : l.IsAt rest column ts columns allowsKey) (t : Token) (c : Cursor)
    (allowsKey' : Bool) :
    IsAt { l.emit t with cursor := c, allowsKey := allowsKey' } c.rest c.column (ts ++ [t]) columns
      allowsKey' := by
  obtain ⟨index, line, rfl⟩ := h
  exact ⟨c.index, c.line, by simp [Layout.emit]⟩

end

/-- The text is at its end, or goes on with a token. -/
def BeginsToken (s : List Char) : Prop :=
  ∀ c ∈ s.head?, isSeparator c = false ∧ c ≠ '#' ∧ c ≠ byteOrderMark

theorem beginsToken_cons {c : Char} {s : List Char}
    (h : isSeparator c = false ∧ c ≠ '#' ∧ c ≠ byteOrderMark) : BeginsToken (c :: s) :=
  fun _ hd => Option.some.inj hd ▸ h

theorem beginsToken_nil : BeginsToken [] :=
  fun _ hd => nomatch hd

theorem BeginsToken.startsWord {s : List Char} (h : BeginsToken s) : StartsWord s :=
  fun c hc => (h c hc).1

variable {l : Layout} {s r : List Char} {k column : Nat} {ts : List Token} {columns : List Nat}
  {allowsKey : Bool}

/-- No byte order mark stands before a token. -/
theorem startsWith_byteOrderMark (hr : BeginsToken r) :
    startsWith byteOrderMark (spaces k ++ r) = false := by
  refine beq_false_of_ne fun hmark => ?_
  cases k with
  | zero => exact (hr _ hmark).2.2 rfl
  | succ k => exact absurd (Option.some.inj hmark) (by decide)

theorem isGap_of_isBlank {tabs : Bool} {d : Char} (h : (d == ' ' || (tabs && d == '\t')) = true) :
    isGap d = true := by
  simp only [Bool.or_eq_true, Bool.and_eq_true] at h
  exact Bool.or_eq_true_iff.mpr (h.imp_right And.right)

/-- Blanks before a token are passed over. -/
theorem skipToToken_spaces (fuel : Nat) (hrest : l.cursor.rest = spaces k ++ r)
    (hr : BeginsToken r) :
    skipToToken (fuel + 1) l = { l with cursor := l.cursor.advance k } := by
  have hmark := @startsWith_byteOrderMark r k hr
  have hskip (tabs : Bool) : (l.cursor.skip fun d => d == ' ' || (tabs && d == '\t')) =
      l.cursor.advance k := by
    rw [Cursor.skip, Cursor.span_spaces rfl (fun _ => isGap_of_isBlank) hrest hr.startsWord,
      length_spaces]
  have hend : (l.cursor.advance k).rest = r := Cursor.rest_advance_spaces hrest
  have hcomment : (l.cursor.advance k).skipComment = l.cursor.advance k := by
    rw [Cursor.skipComment, hend, if_neg]
    simp only [startsWith, beq_iff_eq]
    exact fun hd => (hr '#' hd).2.1 rfl
  have hatBreak : (l.cursor.advance k).atBreak = false := by
    rw [Cursor.atBreak, hend, Option.any_eq_false]
    exact fun d hd => isBreak_of_isSeparator_eq_false (hr d hd).1
  rw [skipToToken, hrest, hmark, Bool.and_false]
  simp only [Bool.false_eq_true, if_false, hskip, hcomment, hatBreak]

/-- The end of a line is passed over, and a key may stand in the next line. In a line that has begun
it may not. -/
theorem skipToToken_newline (fuel : Nat) (hrest : l.cursor.rest = '\n' :: s) :
    skipToToken (fuel + 1) l =
      skipToToken fuel { l with
        cursor := l.cursor.nextLine
        allowsKey := l.allowsKey || !l.inFlow } := by
  have hmark : startsWith byteOrderMark ('\n' :: s) = false := by
    refine beq_false_of_ne fun hmark => ?_
    exact absurd (Option.some.inj hmark) (by decide)
  have hskip (tabs : Bool) :
      (l.cursor.skip fun d => d == ' ' || (tabs && d == '\t')) = l.cursor := by
    have hspan : (l.cursor.span fun d => d == ' ' || (tabs && d == '\t')) = [] := by
      rw [Cursor.span, hrest]
      exact List.takeWhile_cons_of_neg (by simp)
    rw [Cursor.skip, hspan]
    rfl
  have hcomment : l.cursor.skipComment = l.cursor := by simp [Cursor.skipComment, hrest, startsWith]
  have hatBreak : l.cursor.atBreak = true := by
    rw [Cursor.atBreak, hrest]
    rfl
  rw [skipToToken, hrest, hmark, Bool.and_false]
  simp only [Bool.false_eq_true, if_false, hskip, hcomment, hatBreak, if_true]

/-! ### Ends of collections -/

/-- Nothing ends at a column that is not left of the innermost collection. -/
theorem closeTo_eq_self {m : Nat} (h : ∀ x ∈ l.columns.head?, x ≤ m) : l.closeTo (some m) = l := by
  have hnone : l.columns.takeWhile (fun x => decide (m < x)) = [] := by
    cases hcolumns : l.columns with
    | nil => rfl
    | cons x columns =>
      refine List.takeWhile_cons_of_neg ?_
      rw [decide_eq_true_eq, Nat.not_lt]
      exact h x (by rw [hcolumns]; rfl)
  rw [closeTo]
  split
  · rfl
  · simp [hnone]

/-- A collection ends at a column left of it, and then those around it are looked at. -/
theorem closeTo_cons {m x : Nat} (hflow : l.outerCandidates = [])
    (hcolumns : l.columns = x :: columns) (h : m < x) :
    l.closeTo (some m) =
      { l with columns, tokens := l.tokens.push .blockEnd }.closeTo (some m) := by
  have htake : (x :: columns).takeWhile (fun x => decide (m < x)) =
      x :: columns.takeWhile fun x => decide (m < x) :=
    List.takeWhile_cons_of_pos (by simpa using h)
  simp only [closeTo, inFlow, hflow, List.isEmpty_nil, Bool.not_true, Bool.false_eq_true, if_false,
    hcolumns, htake, List.length_cons, List.drop_succ_cons, Layout.mk.injEq, true_and, and_true]
  exact Array.ext' (by simp [List.replicate_succ])

/-! ### What comes next -/

/-- The next token stands at this column, with this text from there on, when the collections that
end before it are still to be ended. -/
def Faces (l : Layout) (r : List Char) (k : Nat) (ts : List Token) (columns : List Nat) : Prop :=
  ∃ m : Layout, m.IsAt r k ts columns true ∧ l.next? = some (m.closeTo (some k))

/-- Without candidates for keys none is stale. -/
theorem dropStale_eq_self (hcandidate : l.candidate = none) (houter : l.outerCandidates = []) :
    l.dropStale = some l := by
  obtain ⟨cursor, tokens, columns, candidate, outer, allowsKey⟩ := l
  obtain rfl : candidate = none := hcandidate
  obtain rfl : outer = [] := houter
  rfl

/-- The next token in the line. -/
theorem exists_next?_of_isAt (h : l.IsAt (spaces k ++ r) column ts columns allowsKey)
    (hr : BeginsToken r) :
    ∃ m : Layout, m.IsAt r (column + k) ts columns allowsKey ∧
      l.next? = some (m.closeTo (some (column + k))) := by
  obtain ⟨index, line, rfl⟩ := h
  refine ⟨_, ⟨index + k, line, rfl⟩, ?_⟩
  rw [next?, skipToToken_spaces _ rfl hr, dropStale_eq_self rfl rfl]
  simp [Cursor.advance, spaces]

/-- The first token in the next line. -/
theorem faces_of_newline (h : l.IsAt ('\n' :: (spaces k ++ r)) column ts columns allowsKey)
    (hr : BeginsToken r) : l.Faces r k ts columns := by
  obtain ⟨index, line, rfl⟩ := h
  refine ⟨_, ⟨index + 1 + k, line + 1, rfl⟩, ?_⟩
  rw [next?, skipToToken_newline _ rfl]
  rw [List.length_cons, skipToToken_spaces _ rfl hr, dropStale_eq_self rfl rfl]
  simp [Cursor.advance, Cursor.nextLine, spaces, inFlow]

theorem Faces.of_isAt (h : l.IsAt r k ts columns true) (hr : BeginsToken r) :
    l.Faces r k ts columns :=
  @exists_next?_of_isAt l r 0 k ts columns true h hr

/-- A collection ends before a token left of it. -/
theorem Faces.blockEnd {x : Nat} (h : l.Faces r k ts (x :: columns)) (hk : k < x) :
    l.Faces r k (ts ++ [.blockEnd]) columns := by
  obtain ⟨m, ⟨index, line, rfl⟩, hnext⟩ := h
  refine ⟨_, ⟨index, line, rfl⟩, ?_⟩
  rw [hnext, closeTo_cons rfl rfl hk]
  simp

/-- No collection ends before a token that is not left of the innermost one, so the way leads to the
token itself. -/
theorem Faces.exists_next? (h : l.Faces r k ts columns) (hcolumns : ∀ x ∈ columns.head?, x ≤ k) :
    ∃ m : Layout, m.IsAt r k ts columns true ∧ l.next? = some m := by
  obtain ⟨m, hm, hnext⟩ := h
  refine ⟨m, hm, ?_⟩
  obtain ⟨index, line, rfl⟩ := hm
  rwa [closeTo_eq_self hcolumns] at hnext

end Layout

end Yaml

end EntityScript
