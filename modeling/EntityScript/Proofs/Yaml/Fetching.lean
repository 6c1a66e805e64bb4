import EntityScript.Proofs.Yaml.Scalar.Literal
import EntityScript.Proofs.Yaml.Scalar.Plain
import EntityScript.Proofs.Yaml.Scalar.Quoted
import EntityScript.Proofs.Yaml.Steps
import EntityScript.Yaml.Value

/-!
# What is written of values is fetched

The steps of the reader over the parts of a written document: a key with its colon
(`exists_steps_key`, and `exists_steps_firstKey` where it begins a mapping), a scalar behind a key
in whichever style it was written (`exists_step_text`), the dash of an item and an empty sequence.
-/

namespace EntityScript

namespace Yaml

namespace Layout

variable {l : Layout} {s t r : List Char} {k column : Nat} {ts : List Token} {columns : List Nat}

/-! ### Keys -/

/-- A text that is written as a key of a mapping without quotes. -/
structure IsKey (s : List Char) : Prop where
  ne_nil : s ≠ []
  allowsPlain : allowsPlain s = true
  length_le : s.length ≤ keyLimit

/-- A text that may be written without quotes begins a token. It begins with no blank, no comment
and no byte order mark. -/
theorem beginsToken_of_allowsPlain (hne : s ≠ []) (h : allowsPlain s = true) (t : List Char) :
    BeginsToken (s ++ t) := by
  have hplain := isPlain_of_allowsPlain hne h
  obtain ⟨hescapes, -⟩ := allowsPlain_iff.mp h
  intro c hc
  obtain ⟨d, s, rfl⟩ := List.exists_cons_of_ne_nil hne
  obtain rfl : d = c := Option.some.inj hc
  refine ⟨startsWord_cons.mp (hplain.startsWord t), (hplain.head d rfl).2, ?_⟩
  rintro rfl
  have hmark := isPrintable_of_needsEscapes_eq_false hescapes byteOrderMark List.mem_cons_self
  exact absurd hmark (by decide)

theorem insert_eq (ts us : List Token) (u : Token) (htokens : l.tokens = (ts ++ us).toArray) :
    l.insert ts.length u = { l with tokens := (ts ++ u :: us).toArray } := by
  rw [insert, htokens]
  congr 1
  exact Array.ext' (by simp)

/-- The layout behind a key, which is a candidate until the colon is met. -/
def afterKey (s t : List Char) (k : Nat) (ts : List Token) (columns : List Nat) (index line : Nat)
    (isRequired : Bool) : Layout where
  cursor := ⟨':' :: t, index + s.length, line, k + s.length⟩
  tokens := (ts ++ [Token.scalar .plain s]).toArray
  columns := columns
  candidate := some ⟨ts.length, index, line, k, isRequired⟩
  allowsKey := false

/-- What stands no further left than the innermost collection is not left of the margin. So a scalar
there is not cut off. -/
theorem margin_le (hcolumns : ∀ x ∈ l.columns.head?, x ≤ k) : l.margin ≤ k + 1 := by
  rw [margin]
  split
  · exact Nat.zero_le _
  · next x columns heq => exact Nat.succ_le_succ (hcolumns x (by rw [heq]; rfl))

/-- A key is fetched as a plain scalar, and kept as a candidate for a key until its colon is met. -/
theorem exists_step_afterKey (h : l.Faces (s ++ ':' :: t) k ts columns) (hs : IsKey s)
    (ht : endsWord t = true) (hcolumns : ∀ x ∈ columns.head?, x ≤ k) :
    ∃ index line isRequired, Step l (afterKey s t k ts columns index line isRequired) := by
  obtain ⟨m, ⟨index, line, rfl⟩, hnext⟩ := h.exists_next? hcolumns
  have hends : EndsPlain (':' :: t) := Or.inr ⟨rfl, ht⟩
  refine ⟨index, line, columns.head? == some k, _, hnext, ?_, ?_⟩
  · rw [fetch_eq_fetchPlain hs.ne_nil hs.allowsPlain rfl hends rfl, fetchPlain]
    have hread := readPlain_key (isPlain_of_allowsPlain hs.ne_nil hs.allowsPlain)
      (c := ⟨s ++ ':' :: t, index, line, k⟩) rfl ht
      (Bool.or_eq_false_iff.mpr (atMarker_of_allowsPlain hs.allowsPlain rfl hends))
      (margin_le (l := ⟨⟨s ++ ':' :: t, index, line, k⟩, ts.toArray, columns,
        some ⟨ts.length, index, line, k, columns.head? == some k⟩, [], true⟩) hcolumns)
    have hadvance := Cursor.advance_of_rest_eq (c := ⟨s ++ ':' :: t, index, line, k⟩) (s := s) rfl
    rw [hadvance] at hread
    exact Option.bind_eq_some_iff.mpr ⟨_, rfl, Option.bind_eq_some_iff.mpr ⟨_, hread, by
      simp [afterKey, emit, inFlow]⟩⟩
  · have hpos := List.length_pos_iff.mpr hs.ne_nil
    simp only [afterKey, List.length_append]
    omega

/-- A colon before the end of a word is fetched as that of a value. Inside of a word it would be a
part of a plain scalar. -/
theorem fetch_colon (hrest : l.cursor.rest = ':' :: t) (ht : endsWord t = true)
    (hcolumn : 0 < l.cursor.column) : l.fetch = l.fetchColon := by
  have hmarkers := Bool.or_eq_false_iff.mp (Cursor.atDocumentMarker_of_column hcolumn)
  unfold fetch
  simp [hrest, ht, hmarkers.1, hmarkers.2]

/-- The colon behind a key is fetched as that of its value, which makes a key of the scalar before
it. -/
theorem step_afterKey {index line : Nat} {isRequired : Bool} {l' : Layout} (hs : IsKey s)
    (ht : endsWord t = true) (hcolumns : ∀ x ∈ columns.head?, x ≤ k)
    (hfetch : (afterKey s t k ts columns index line isRequired).fetchColon = some l')
    (hrest : l'.cursor.rest = t) :
    Step (afterKey s t k ts columns index line isRequired) l' := by
  have hcolon : BeginsToken (':' :: t) := beginsToken_cons (by decide)
  -- The key is short and in one line, so the colon finds it as a candidate.
  have hfresh : KeyCandidate.isStale ⟨ts.length, index, line, k, isRequired⟩
      ⟨':' :: t, index + s.length, line, k + s.length⟩ = false := by
    have hshort := hs.length_le
    simp only [KeyCandidate.isStale, Bool.or_eq_false_iff, decide_eq_false_iff_not]
    omega
  have hpos := List.length_pos_iff.mpr hs.ne_nil
  refine ⟨afterKey s t k ts columns index line isRequired, ?_, ?_, ?_⟩
  · have hskip : skipToToken ((':' :: t).length + 1)
        (afterKey s t k ts columns index line isRequired) =
        afterKey s t k ts columns index line isRequired :=
      skipToToken_spaces (k := 0) _ rfl hcolon
    have hdrop : (afterKey s t k ts columns index line isRequired).dropStale =
        some (afterKey s t k ts columns index line isRequired) := by
      simp [dropStale, freshOnly, afterKey, hfresh]
    have hclose : (afterKey s t k ts columns index line isRequired).closeTo (some (k + s.length)) =
        afterKey s t k ts columns index line isRequired :=
      closeTo_eq_self fun x hx => Nat.le_add_right_of_le (hcolumns x hx)
    show (skipToToken ((':' :: t).length + 1) _).dropStale.map _ = _
    rw [hskip, hdrop]
    exact congrArg some hclose
  · rw [fetch_colon rfl ht (Nat.add_pos_right k hpos), hfetch]
  · rw [hrest]
    exact Nat.lt_succ_self _

theorem openAt_of_le (place : Nat) (t : Token) (h : k < l.margin) : l.openAt k place t = l := by
  rw [openAt, decide_eq_true h, Bool.or_true, if_pos rfl]

/-- A collection begins right of the one around it. Its first token is put where the candidate for
its key stands. -/
theorem openAt_of_lt (place : Nat) (t : Token) (hflow : l.outerCandidates = [])
    (h : ∀ x ∈ l.columns.head?, x < k) :
    l.openAt k place t = { l.insert place t with columns := k :: l.columns } := by
  have hmargin : ¬ k < l.margin := by
    rw [margin]
    split
    · exact Nat.not_lt_zero k
    · next x columns heq => exact Nat.not_lt.mpr (h x (by rw [heq]; rfl))
  rw [openAt, inFlow, hflow, decide_eq_false hmargin]
  rfl

/-- **A further key of a mapping** is read with its colon. There are two steps, one for the scalar
and one for the colon. -/
theorem exists_steps_key (h : l.Faces (s ++ ':' :: t) k ts (k :: columns)) (hs : IsKey s)
    (ht : endsWord t = true) :
    ∃ l', Steps l l' ∧ l'.IsAt t (k + s.length + 1) (ts ++ [.key, .scalar .plain s, .value])
      (k :: columns) false := by
  have hcolumns : ∀ x ∈ (k :: columns).head?, x ≤ k := fun x hx =>
    Nat.le_of_eq (Option.some.inj hx).symm
  obtain ⟨index, line, isRequired, hkey⟩ := exists_step_afterKey h hs ht hcolumns
  refine ⟨_, .tail (.single hkey) (step_afterKey hs ht hcolumns ?_ rfl),
    ⟨index + s.length + 1, line, rfl⟩⟩
  simp only [fetchColon, afterKey]
  rw [insert_eq ts [.scalar .plain s] .key rfl, openAt_of_le _ _ (Nat.lt_succ_self k)]
  simp [emitMark, Cursor.advance]

/-- **The first key of a mapping** is read with its colon, and begins the mapping. The beginning of
the mapping is put in before the key once the colon is met. -/
theorem exists_steps_firstKey (h : l.Faces (s ++ ':' :: t) k ts columns) (hs : IsKey s)
    (ht : endsWord t = true) (hcolumns : ∀ x ∈ columns.head?, x < k) :
    ∃ l', Steps l l' ∧ l'.IsAt t (k + s.length + 1)
      (ts ++ [.blockMappingStart, .key, .scalar .plain s, .value]) (k :: columns) false := by
  have hle : ∀ x ∈ columns.head?, x ≤ k := fun x hx => Nat.le_of_lt (hcolumns x hx)
  obtain ⟨index, line, isRequired, hkey⟩ := exists_step_afterKey h hs ht hle
  refine ⟨_, .tail (.single hkey) (step_afterKey hs ht hle ?_ rfl),
    ⟨index + s.length + 1, line, rfl⟩⟩
  simp only [fetchColon, afterKey]
  rw [insert_eq ts [.scalar .plain s] .key rfl, openAt_of_lt _ _ rfl hcolumns,
    insert_eq ts [.key, .scalar .plain s] .blockMappingStart rfl]
  simp [emitMark, Cursor.advance]

/-! ### Scalars behind a key -/

section

variable {x : Nat}

/-- The token behind a key is right of the mapping. So it does not end the mapping. -/
theorem exists_next?_behindKey (h : l.IsAt (' ' :: s) column ts (x :: columns) false)
    (hs : BeginsToken s) (hcolumn : x < column) :
    ∃ m : Layout, m.IsAt s (column + 1) ts (x :: columns) false ∧ l.next? = some m := by
  obtain ⟨m, hm, hnext⟩ := exists_next?_of_isAt (k := 1) h hs
  refine ⟨m, hm, ?_⟩
  obtain ⟨index, line, rfl⟩ := hm
  rwa [closeTo_eq_self fun y hy => ?_] at hnext
  obtain rfl := Option.some.inj hy
  exact Nat.le_add_right_of_le (Nat.le_of_lt hcolumn)

/-- A plain scalar is read to the end of its line. The next line is not right of the mapping, so it
is not a part of the scalar. -/
theorem exists_step_plain
    (h : l.IsAt (' ' :: (s ++ '\n' :: (spaces k ++ r))) column ts (x :: columns) false)
    (hne : s ≠ []) (hs : allowsPlain s = true) (hcolumn : x < column) (hk : k ≤ x)
    (hr : BeginsToken r) :
    ∃ l', Step l l' ∧ l'.Faces r k (ts ++ [.scalar .plain s]) (x :: columns) := by
  obtain ⟨m, hm, hnext⟩ := exists_next?_behindKey h (beginsToken_of_allowsPlain hne hs _) hcolumn
  have hmargin : m.margin = x + 1 := by rw [margin, hm.columns_eq]
  have hmarker : m.cursor.atDocumentMarker = false :=
    Cursor.atDocumentMarker_of_column (hm.column_eq ▸ Nat.succ_pos column)
  -- The value stands behind its key, so it is indented deeper than the mapping.
  have hle : m.margin ≤ m.cursor.column + 1 := by
    rw [hmargin, hm.column_eq]
    omega
  obtain ⟨c', hrest, hc', hread⟩ := exists_readPlain_line (isPlain_of_allowsPlain hne hs) hm.rest_eq
    hr.startsWord (hmargin ▸ Nat.lt_succ_of_le hk) hmarker hle
  have hl' := hm.emit (.scalar .plain s) c' true
  rw [hrest, hc'] at hl'
  refine ⟨_, ⟨m, hnext, ?_, ?_⟩, .of_isAt hl' hr⟩
  · rw [fetch_eq_fetchPlain hne hs hm.rest_eq (Or.inl (by decide)) hm.inFlow_eq, fetchPlain,
      hm.addCandidate_eq]
    simp only [Option.bind_eq_bind, Option.bind_some, hm.inFlow_eq, hread]
  · show c'.rest.length < _
    rw [hrest, hm.rest_eq, List.length_append, List.length_cons, List.length_append]
    omega

/-- The kinds of quotes with their styles. -/
def IsQuote (quote : Char) (style : ScalarStyle) : Prop :=
  quote = '\'' ∧ style = .singleQuoted ∨ quote = '"' ∧ style = .doubleQuoted

/-- A quote begins a scalar in quotes of its kind. Quotes have no other meaning at the start of a
token. -/
theorem fetch_quote {quote : Char} {style : ScalarStyle} (hquote : IsQuote quote style)
    (hrest : l.cursor.rest = quote :: t) (hcolumn : 0 < l.cursor.column) :
    l.fetch = l.fetchQuoted quote style := by
  have hmarkers := Bool.or_eq_false_iff.mp (Cursor.atDocumentMarker_of_column hcolumn)
  rcases hquote with ⟨rfl, rfl⟩ | ⟨rfl, rfl⟩
  all_goals
    unfold fetch
    simp [hrest, hmarkers.1, hmarkers.2]

/-- A scalar in quotes is read, and the end of its line is next. Both kinds of quotes are read by
one function. -/
theorem exists_step_quoted {quote : Char} {u : List Char} {style : ScalarStyle}
    (h : l.IsAt (' ' :: (quote :: u ++ quote :: '\n' :: (spaces k ++ r))) column ts (x :: columns)
      false)
    (hquote : IsQuote quote style) (hu : Writes quote s u) (hcolumn : x < column)
    (hr : BeginsToken r) :
    ∃ l', Step l l' ∧ l'.Faces r k (ts ++ [.scalar style s]) (x :: columns) := by
  obtain ⟨hword, hcomment, hmark, hfeed⟩ : isSeparator quote = false ∧ quote ≠ '#' ∧
      quote ≠ byteOrderMark ∧ '\n' ≠ quote := by
    rcases hquote with ⟨rfl, -⟩ | ⟨rfl, -⟩ <;> decide
  obtain ⟨m, hm, hnext⟩ :=
    exists_next?_behindKey h (beginsToken_cons ⟨hword, hcomment, hmark⟩) hcolumn
  obtain ⟨c', hrest, hread⟩ := exists_readQuoted hu hm.rest_eq
    (fun heq => hfeed (Option.some.inj heq)) hword
  have hl' := hm.emit (.scalar style s) c' false
  rw [hrest] at hl'
  refine ⟨_, ⟨m, hnext, ?_, ?_⟩, faces_of_newline hl' hr⟩
  · rw [fetch_quote hquote hm.rest_eq (hm.column_eq ▸ Nat.succ_pos column), fetchQuoted,
      hm.addCandidate_eq]
    simp only [Option.bind_eq_bind, Option.bind_some, hread]
  · show c'.rest.length < _
    rw [hrest, hm.rest_eq]
    simp only [List.length_append, List.length_cons]
    omega

/-- A bar begins a literal scalar, outside of brackets. -/
theorem fetch_bar (hrest : l.cursor.rest = '|' :: t) (hcolumn : 0 < l.cursor.column)
    (hflow : l.inFlow = false) : l.fetch = l.fetchBlock false := by
  have hmarkers := Bool.or_eq_false_iff.mp (Cursor.atDocumentMarker_of_column hcolumn)
  unfold fetch
  simp [hrest, hmarkers.1, hmarkers.2, hflow]

/-- A literal scalar is read with its lines, of which the last one is followed by what comes
next. -/
theorem exists_step_literal
    (h : l.IsAt (' ' :: '|' :: (indentationHint s ++ (chompingHint s ++ '\n' ::
      (literalBody (x + 2) true s ++ (lineFeedAfter s ++ (spaces k ++ r)))))) column ts
      (x :: columns) false)
    (hne : s ≠ []) (hs : ∀ d ∈ s, isPrintable d = true) (hcolumn : x < column) (hk : k ≤ x)
    (hr : BeginsToken r) :
    ∃ l', Step l l' ∧ l'.Faces r k (ts ++ [.scalar .literal s]) (x :: columns) := by
  obtain ⟨m, hm, hnext⟩ := exists_next?_behindKey h (beginsToken_cons (by decide)) hcolumn
  have hmargin : m.margin = x + 1 := by rw [margin, hm.columns_eq]
  -- The next key is indented less than the body, which ends the scalar in front of it.
  obtain ⟨c', hrest, hc', hread⟩ := exists_readBlock hne hs hm.rest_eq (Nat.succ_pos x)
    (Nat.lt_succ_of_le hk) hr.startsWord
  have hl' := hm.emit (.scalar .literal s) c' true
  rw [hrest, hc'] at hl'
  refine ⟨_, ⟨m, hnext, ?_, ?_⟩, .of_isAt hl' hr⟩
  · rw [fetch_bar hm.rest_eq (hm.column_eq ▸ Nat.succ_pos column) hm.inFlow_eq, fetchBlock,
      hm.dropCandidate_eq]
    simp only [Option.bind_eq_bind, Option.bind_some, hmargin, hread, Bool.false_eq_true, if_false]
  · show c'.rest.length < _
    rw [hrest, hm.rest_eq]
    simp only [List.length_append, List.length_cons]
    omega

/-! ### Texts -/

/-- What the style of a text says about it. Each style is taken under conditions that its reader
needs. -/
theorem of_styleOf (s : List Char) :
    match styleOf s with
    | .plain => s ≠ [] ∧ allowsPlain s = true
    | .singleQuoted => IsSingleQuoted s
    | .doubleQuoted => True
    | .literal => s ≠ [] ∧ ∀ d ∈ s, isPrintable d = true
    | .folded => False := by
  unfold styleOf
  by_cases hfeed : s.contains '\n' = true
  · rw [if_pos hfeed]
    by_cases hliteral : allowsLiteral s = true
    · rw [if_pos hliteral]
      simp only [allowsLiteral, Bool.not_eq_true', Bool.or_eq_false_iff] at hliteral
      exact ⟨List.isEmpty_eq_false_iff.mp hliteral.1.1,
        isPrintable_of_needsEscapes_eq_false hliteral.1.2⟩
    · rw [if_neg hliteral]
      trivial
  · rw [if_neg hfeed]
    by_cases hplain : (!needsQuotes s && allowsPlain s) = true
    · rw [if_pos hplain]
      obtain ⟨hneeds, hallows⟩ := Bool.and_eq_true_iff.mp hplain
      refine ⟨?_, hallows⟩
      rintro rfl
      exact absurd hneeds (by decide)
    · rw [if_neg hplain]
      by_cases hsingle : allowsSingleQuotes s = true
      · rw [if_pos hsingle]
        simp only [allowsSingleQuotes, Bool.not_eq_true', Bool.or_eq_false_iff] at hsingle
        obtain ⟨hescapes, hbreaks⟩ := hsingle
        refine ⟨isPrintable_of_needsEscapes_eq_false hescapes, fun c hc => ?_,
          (Bool.or_eq_false_iff.mp hescapes).2, hbreaks⟩
        rintro rfl
        exact hfeed (List.contains_iff_mem.mpr hc)
      · rw [if_neg hsingle]
        trivial

/-- A text behind a key is followed by the end of its line, if it does not bring one along. -/
theorem endLine_cons (c : Char) (hne : s ≠ []) :
    Value.endLine (c :: s) = c :: (s ++ lineFeedAfter s) := by
  have hlast : lineFeedAfter (c :: s) = lineFeedAfter s := lineFeedAfter_append [c] hne
  have heq : Value.endLine (c :: s) = c :: s ++ lineFeedAfter (c :: s) := by
    rw [Value.endLine, lineFeedAfter]
    split
    · exact (List.append_nil _).symm
    · rfl
  rw [heq, hlast, List.cons_append]

/-- A scalar in quotes is followed by the end of its line. A closing quote is no line end. -/
theorem endLine_quoted {quote : Char} {style : ScalarStyle} (hquote : IsQuote quote style)
    (u t : List Char) :
    Value.endLine (' ' :: (quote :: u ++ [quote])) ++ t =
      ' ' :: (quote :: u ++ quote :: '\n' :: t) := by
  have hfeed : lineFeedAfter [quote] = ['\n'] := by
    rcases hquote with ⟨rfl, -⟩ | ⟨rfl, -⟩ <;> decide
  rw [endLine_cons ' ' (List.append_ne_nil_of_left_ne_nil (List.cons_ne_nil quote u) _),
    lineFeedAfter_append _ (List.cons_ne_nil _ _), hfeed]
  simp

/-- **A text is read back in the style in which it is written.** There is one case for each style,
and the lemmas above read it. -/
theorem exists_step_text
    (h : l.IsAt (Value.endLine (' ' :: writeScalar (x + 2) s) ++ (spaces k ++ r)) column ts
      (x :: columns) false)
    (hcolumn : x < column) (hk : k ≤ x) (hr : BeginsToken r) :
    ∃ l', Step l l' ∧ l'.Faces r k (ts ++ [.scalar (styleOf s) s]) (x :: columns) := by
  have hstyle := of_styleOf s
  rw [writeScalar] at h
  generalize styleOf s = style at h hstyle ⊢
  cases style with
  | plain =>
    obtain ⟨hne, hplain⟩ := hstyle
    obtain ⟨-, hbreaks, -⟩ := allowsPlain_iff.mp hplain
    have hfeed := lineFeedAfter_of_not_isBreak fun d hd => hbreaks d (List.mem_of_getLast? hd)
    dsimp only at h
    rw [endLine_cons ' ' hne, hfeed, List.cons_append, List.append_assoc] at h
    exact exists_step_plain h hne hplain hcolumn hk hr
  | singleQuoted =>
    have hquote : IsQuote '\'' .singleQuoted := Or.inl ⟨rfl, rfl⟩
    dsimp only at h
    rw [endLine_quoted hquote] at h
    exact exists_step_quoted h hquote (writes_singleQuoted (x + 1) hstyle) hcolumn hr
  | doubleQuoted =>
    have hquote : IsQuote '"' .doubleQuoted := Or.inr ⟨rfl, rfl⟩
    dsimp only at h
    rw [endLine_quoted hquote] at h
    exact exists_step_quoted h hquote (writes_doubleQuoted s) hcolumn hr
  | literal =>
    obtain ⟨hne, hprintable⟩ := hstyle
    dsimp only at h
    rw [List.append_cons _ '\n', endLine_cons ' ' (List.append_ne_nil_of_right_ne_nil _
      (literalBody_ne_nil (x + 2) true hne)),
      lineFeedAfter_append _ (literalBody_ne_nil (x + 2) true hne),
      lineFeedAfter_literalBody _ _ hne] at h
    refine exists_step_literal ?_ hne hprintable hcolumn hk hr
    simpa using h
  | folded => exact hstyle.elim

/-! ### Sequences -/

/-- Brackets begin and end a sequence in a line. -/
theorem fetch_brackets (hcolumn : 0 < l.cursor.column) :
    (l.cursor.rest = '[' :: t → l.fetch = l.fetchOpening .flowSequenceStart) ∧
      (l.cursor.rest = ']' :: t → l.fetch = l.fetchClosing .flowSequenceEnd) := by
  have hmarkers := Bool.or_eq_false_iff.mp (Cursor.atDocumentMarker_of_column hcolumn)
  constructor
  all_goals
    intro hrest
    unfold fetch
    simp [hrest, hmarkers.1, hmarkers.2]

/-- The layout behind an opening bracket, in which the closing one is next. -/
def afterBracket (t : List Char) (column : Nat) (ts : List Token) (columns : List Nat)
    (index line : Nat) : Layout where
  cursor := ⟨']' :: t, index, line, column⟩
  tokens := (ts ++ [Token.flowSequenceStart]).toArray
  columns := columns
  outerCandidates := [none]

/-- Nothing ends between the two brackets. -/
theorem next?_afterBracket (t : List Char) (column : Nat) (ts : List Token) (columns : List Nat)
    (index line : Nat) :
    (afterBracket t column ts columns index line).next? =
      some (afterBracket t column ts columns index line) := by
  have hskip : skipToToken ((']' :: t).length + 1) (afterBracket t column ts columns index line) =
      afterBracket t column ts columns index line :=
    skipToToken_spaces (k := 0) _ rfl (beginsToken_cons (by decide))
  show (skipToToken ((']' :: t).length + 1) _).dropStale.map _ = _
  rw [hskip]
  rfl

/-- **An empty sequence** is read in its brackets. There are two steps, one for each bracket. -/
theorem exists_steps_brackets
    (h : l.IsAt (" []\n".toList ++ (spaces k ++ r)) column ts (x :: columns) false)
    (hcolumn : x < column) (hr : BeginsToken r) :
    ∃ l', Steps l l' ∧
      l'.Faces r k (ts ++ [.flowSequenceStart, .flowSequenceEnd]) (x :: columns) := by
  obtain ⟨m, ⟨index, line, rfl⟩, hnext⟩ := exists_next?_behindKey
    (s := '[' :: ']' :: '\n' :: (spaces k ++ r)) h (beginsToken_cons (by decide)) hcolumn
  have hopen : Step l
      (afterBracket ('\n' :: (spaces k ++ r)) (column + 2) ts (x :: columns) (index + 1) line) := by
    refine ⟨_, hnext, ?_, Nat.lt_succ_self _⟩
    rw [(fetch_brackets (Nat.succ_pos column)).1 rfl, fetchOpening]
    simp [addCandidate, emitMark, Cursor.advance, afterBracket]
  refine ⟨_, .tail (.single hopen) ⟨_, next?_afterBracket _ _ _ _ _ _, ?_, Nat.lt_succ_self _⟩,
    @faces_of_newline _ r k (column + 3) _ _ false ⟨index + 2, line, rfl⟩ hr⟩
  rw [(fetch_brackets (Nat.succ_pos _)).2 rfl, fetchClosing]
  simp [dropCandidate, emitMark, Cursor.advance, afterBracket]

/-- A dash before a blank is fetched as that of an item. -/
theorem fetch_dash (hrest : l.cursor.rest = '-' :: ' ' :: t) : l.fetch = l.fetchDash := by
  have hdash : l.cursor.atMarker '-' = false :=
    atMarker_eq_false (s := ['-']) hrest (by decide) (by simp)
  have hdot : l.cursor.atMarker '.' = false :=
    atMarker_eq_false (s := ['-']) hrest (by decide) (by simp)
  unfold fetch
  simp [hrest, hdash, hdot, endsWord, isSeparator, isGap]

/-- **The dash of an item** is read. It stands in the column of the mapping around the sequence. -/
theorem exists_step_dash (h : l.Faces ('-' :: ' ' :: t) x ts (x :: columns)) :
    ∃ l', Step l l' ∧ l'.IsAt (' ' :: t) (x + 1) (ts ++ [.blockEntry]) (x :: columns) true := by
  obtain ⟨m, ⟨index, line, rfl⟩, hnext⟩ := h.exists_next? fun y hy =>
    Nat.le_of_eq (Option.some.inj hy).symm
  refine ⟨_, ⟨_, hnext, ?_, ?_⟩, ⟨index + 1, line, rfl⟩⟩
  · rw [fetch_dash rfl, fetchDash, openAt_of_le _ _ (Nat.lt_succ_self x)]
    simp [dropCandidate, emitMark, Cursor.advance, inFlow]
  · exact Nat.lt_succ_self _

end

end Layout

end Yaml

end EntityScript
