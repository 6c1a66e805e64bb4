import EntityScript.Json.Decode
import EntityScript.Proofs.Json.Tokens

/-!
# Compact texts read back

A value with well-formed numerals is read back from its compact text. The text is the tokens of the
value (`Value.tokens`, `lexes_toList`), and these make the draft of the value, whatever stands
behind them (`drafts_tokens`). So a decoder of whole texts makes of the text what it makes of the
value itself (`Decoder.text_compact`).
-/

namespace EntityScript

namespace Json

/-! ### Numerals and tokens of a value -/

mutual

/-- The numerals in a value. -/
def Value.numerals : Value → List Numeral
  | .number n => [n]
  | .array vs => Value.itemNumerals vs
  | .object ms => Value.memberNumerals ms
  | .null | .bool _ | .string _ => []

/-- The numerals in the items of an array. -/
def Value.itemNumerals : List Value → List Numeral
  | [] => []
  | v :: vs => v.numerals ++ Value.itemNumerals vs

/-- The numerals in the members of an object. -/
def Value.memberNumerals : List (String × Value) → List Numeral
  | [] => []
  | (_, v) :: ms => v.numerals ++ Value.memberNumerals ms

end

/-- The numerals in the value are well formed. -/
def Value.IsWellFormed (v : Value) : Prop :=
  ∀ n ∈ v.numerals, n.IsWellFormed

mutual

/-- The tokens of the compact text of a value. -/
def Value.tokens : Value → List Token
  | .null => [.null]
  | .bool b => [.bool b]
  | .number n => [.number n]
  | .string s => [.string (some s)]
  | .array [] => [.openArray, .closeArray]
  | .array (v :: vs) => .openArray :: (v.tokens ++ Value.tokensAfterItem vs)
  | .object [] => [.openObject, .closeObject]
  | .object ((key, v) :: ms) =>
    .openObject :: .string (some key) :: .colon :: (v.tokens ++ Value.tokensAfterMember ms)

/-- The tokens behind an item of an array, up to its end, given the items that follow. -/
def Value.tokensAfterItem : List Value → List Token
  | [] => [.closeArray]
  | v :: vs => .comma :: (v.tokens ++ Value.tokensAfterItem vs)

/-- The tokens behind a member of an object, up to its end, given the members that follow. -/
def Value.tokensAfterMember : List (String × Value) → List Token
  | [] => [.closeObject]
  | (key, v) :: ms =>
    .comma :: .string (some key) :: .colon :: (v.tokens ++ Value.tokensAfterMember ms)

end

/-! ### Texts cut into tokens -/

/-- Parts with commas between them are the first part, and each other one behind a comma. Readers
take the text apart in this way. -/
theorem commaSeparated_cons (part : List Char) (parts : List (List Char)) :
    commaSeparated (part :: parts) = part ++ parts.flatMap (',' :: ·) := by
  induction parts generalizing part with
  | nil => simp [commaSeparated]
  | cons next parts ih => simp [commaSeparated, ih]

/-- A value ends before the items or members that follow it, and before the closing bracket. This is
what makes the end of a numeral certain. -/
theorem endsValue_append (parts : List (List Char)) {c : Char}
    (hc : c = ',' ∨ c = ']' ∨ c = '\x7d') (s : List Char) :
    EndsValue (parts.flatMap (',' :: ·) ++ c :: s) := by
  intro d hd
  cases parts with
  | nil => exact Option.some.inj hd ▸ hc
  | cons part parts => exact .inl (Option.some.inj hd).symm

mutual

/-- **A compact text is the tokens of its value**, before anything that may stand behind one. The
induction is on the value. -/
theorem lexes_toList : ∀ v : Value, v.IsWellFormed →
    ∀ {s ts}, EndsValue s → Lexes s ts → Lexes (v.toList ++ s) (v.tokens ++ ts)
  | .null, _, _, _, _, h => h.null
  | .bool b, _, _, _, _, h => h.bool b
  | .number n, hn, _, _, hs, h => h.number (hn n (List.mem_singleton_self n)) hs
  | .string text, _, _, _, _, h => h.string text
  | .array [], _, _, _, _, h => h.closeArray.openArray
  | .array (v :: vs), hn, s, ts, _, h => by
    obtain ⟨hv, hvs⟩ := List.forall_mem_append.mp hn
    have hitems := lexes_toList v hv (endsValue_append _ (by decide) s) (lexes_items vs hvs h)
    simpa only [Value.toList, Value.toLists, Value.tokens, commaSeparated_cons, List.append_assoc,
      List.cons_append, List.nil_append] using hitems.openArray
  | .object [], _, _, _, _, h => h.closeObject.openObject
  | .object ((key, v) :: ms), hn, s, ts, _, h => by
    obtain ⟨hv, hms⟩ := List.forall_mem_append.mp hn
    have hmembers := lexes_toList v hv (endsValue_append _ (by decide) s) (lexes_members ms hms h)
    simpa only [Value.toList, Value.memberLists, Value.tokens, commaSeparated_cons,
      List.append_assoc, List.cons_append, List.nil_append] using
      (hmembers.colon.string key).openObject

/-- Items behind the first one are lexed with the comma before each of them and the bracket at the
end. -/
theorem lexes_items : ∀ vs : List Value, (∀ n ∈ Value.itemNumerals vs, n.IsWellFormed) →
    ∀ {s ts}, Lexes s ts →
      Lexes ((Value.toLists vs).flatMap (',' :: ·) ++ ']' :: s) (Value.tokensAfterItem vs ++ ts)
  | [], _, _, _, h => h.closeArray
  | v :: vs, hn, s, ts, h => by
    obtain ⟨hv, hvs⟩ := List.forall_mem_append.mp hn
    have hitems := lexes_toList v hv (endsValue_append _ (by decide) s) (lexes_items vs hvs h)
    simpa only [Value.toLists, Value.tokensAfterItem, List.flatMap_cons, List.append_assoc,
      List.cons_append] using hitems.comma

/-- Members behind the first one are lexed likewise, each with its name and a colon. The three
lemmas are proved together, as values, items and members are nested in each other. -/
theorem lexes_members : ∀ ms : List (String × Value),
    (∀ n ∈ Value.memberNumerals ms, n.IsWellFormed) → ∀ {s ts}, Lexes s ts →
      Lexes ((Value.memberLists ms).flatMap (',' :: ·) ++ '\x7d' :: s)
        (Value.tokensAfterMember ms ++ ts)
  | [], _, _, _, h => h.closeObject
  | (key, v) :: ms, hn, s, ts, h => by
    obtain ⟨hv, hms⟩ := List.forall_mem_append.mp hn
    have hmembers := lexes_toList v hv (endsValue_append _ (by decide) s) (lexes_members ms hms h)
    simpa only [Value.memberLists, Value.tokensAfterMember, List.flatMap_cons, List.append_assoc,
      List.cons_append] using (hmembers.colon.string key).comma

end

/-! ### Tokens put together -/

/-- The tokens make the draft, with a step of fuel for each of them, and nothing behind them has a
part in it. -/
def Drafts (ts : List Token) (d : Draft) : Prop :=
  ∀ fuel rest, ts.length ≤ fuel → draftWithin fuel (ts ++ rest) = (d, rest)

/-- Tokens make a draft if reading them takes one step for the first token and no more steps than
there are others. -/
theorem drafts_cons {t : Token} {ts : List Token} {d : Draft}
    (h : ∀ fuel rest, ts.length ≤ fuel →
      draftWithin (fuel + 1) (t :: (ts ++ rest)) = (d, rest)) : Drafts (t :: ts) d := by
  intro fuel rest hfuel
  cases fuel with
  | zero => exact absurd hfuel (Nat.not_succ_le_zero _)
  | succ fuel => exact h fuel rest (Nat.le_of_succ_le_succ hfuel)

theorem draftWithin_openArray {fuel : Nat} {t : Token} {ts rest : List Token} {items : List Draft}
    (ht : t ≠ .closeArray) (h : itemsWithin fuel (t :: ts) = (items, none, rest)) :
    draftWithin (fuel + 1) (.openArray :: t :: ts) = (.array items none, rest) := by
  cases t with
  | closeArray => exact absurd rfl ht
  | _ => simp only [draftWithin, h]

theorem draftWithin_openObject {fuel : Nat} {key : Option String} {ts rest : List Token}
    {members : List (Option String × Draft)}
    (h : membersWithin true fuel (.string key :: ts) = (members, none, rest)) :
    draftWithin (fuel + 1) (.openObject :: .string key :: ts) = (.object members none, rest) := by
  simp only [draftWithin, h]

/-- The tokens of a value do not begin with the end of an array, so an array with items is not taken
for an empty one. -/
theorem exists_tokens_eq_cons (v : Value) : ∃ t ts, v.tokens = t :: ts ∧ t ≠ .closeArray := by
  cases v with
  | array vs => cases vs <;> exact ⟨_, _, rfl, nofun⟩
  | object ms => rcases ms with _ | ⟨⟨key, v⟩, ms⟩ <;> exact ⟨_, _, rfl, nofun⟩
  | _ => exact ⟨_, _, rfl, nofun⟩

mutual

/-- **The tokens of a value make its draft**, whatever stands behind them. The fuel is a bound on
the tokens, of which every step takes one. -/
theorem drafts_tokens : ∀ v : Value, Drafts v.tokens v.draft
  | .null => drafts_cons fun _ _ _ => rfl
  | .bool _ => drafts_cons fun _ _ _ => rfl
  | .number _ => drafts_cons fun _ _ _ => rfl
  | .string _ => drafts_cons fun _ _ _ => rfl
  | .array [] => drafts_cons fun _ _ _ => rfl
  | .array (v :: vs) => drafts_cons fun fuel rest hfuel => by
    have hitems := itemsWithin_tokens vs (drafts_tokens v) rest hfuel
    obtain ⟨t, ts, hts, ht⟩ := exists_tokens_eq_cons v
    simp only [hts, List.cons_append, List.append_assoc] at hitems ⊢
    exact draftWithin_openArray ht hitems
  | .object [] => drafts_cons fun _ _ _ => rfl
  | .object ((key, v) :: ms) => drafts_cons fun fuel rest hfuel =>
    draftWithin_openObject (membersWithin_tokens ms true key (drafts_tokens v) rest hfuel)

/-- The items of an array after the first one, whose tokens are given. The fuel covers all tokens up
to the end of the array, and `rest` is what stands behind it. -/
theorem itemsWithin_tokens : ∀ (vs : List Value) {ts : List Token} {d : Draft} {fuel : Nat},
    Drafts ts d → ∀ rest, (ts ++ Value.tokensAfterItem vs).length ≤ fuel →
      itemsWithin fuel ((ts ++ Value.tokensAfterItem vs) ++ rest) =
        (d :: Value.drafts vs, none, rest)
  | [], ts, d, fuel, hd, rest, hfuel => by
    simp only [Value.tokensAfterItem, List.length_append, List.length_cons] at hfuel
    obtain ⟨fuel, rfl⟩ := Nat.exists_eq_add_of_le' (show 1 ≤ fuel by omega)
    simp only [Value.tokensAfterItem, List.append_assoc, List.cons_append, itemsWithin,
      hd fuel _ (by omega)]
    rfl
  | v :: vs, ts, d, fuel, hd, rest, hfuel => by
    simp only [Value.tokensAfterItem, List.length_append, List.length_cons] at hfuel
    obtain ⟨fuel, rfl⟩ := Nat.exists_eq_add_of_le' (show 1 ≤ fuel by omega)
    -- The bound counts the tokens that are left, so it drops with the comma and covers the next
    -- item.
    have hlength : (v.tokens ++ Value.tokensAfterItem vs).length ≤ fuel := by
      rw [List.length_append]
      omega
    have hrest := itemsWithin_tokens vs (drafts_tokens v) rest hlength
    rw [List.append_assoc] at hrest
    simp only [Value.tokensAfterItem, List.append_assoc, List.cons_append, itemsWithin,
      hd fuel _ (by omega), hrest]
    rfl

/-- The members of an object after the first name, whose value's tokens are given. A name takes two
tokens, one of which is its colon. -/
theorem membersWithin_tokens : ∀ (ms : List (String × Value)) (first : Bool) (key : String)
    {ts : List Token} {d : Draft} {fuel : Nat}, Drafts ts d → ∀ rest,
    (.string (some key) :: .colon :: (ts ++ Value.tokensAfterMember ms)).length ≤ fuel →
      membersWithin first fuel
        ((.string (some key) :: .colon :: (ts ++ Value.tokensAfterMember ms)) ++ rest) =
          ((some key, d) :: Value.memberDrafts ms, none, rest)
  | [], first, key, ts, d, fuel, hd, rest, hfuel => by
    simp only [Value.tokensAfterMember, List.length_append, List.length_cons] at hfuel
    obtain ⟨fuel, rfl⟩ := Nat.exists_eq_add_of_le' (show 1 ≤ fuel by omega)
    simp only [Value.tokensAfterMember, List.append_assoc, List.cons_append, membersWithin,
      hd fuel _ (by omega)]
    rfl
  | (next, v) :: ms, first, key, ts, d, fuel, hd, rest, hfuel => by
    simp only [Value.tokensAfterMember, List.length_append, List.length_cons] at hfuel
    obtain ⟨fuel, rfl⟩ := Nat.exists_eq_add_of_le' (show 1 ≤ fuel by omega)
    have hlength : (.string (some next) :: .colon ::
        (v.tokens ++ Value.tokensAfterMember ms) : List Token).length ≤ fuel := by
      simp only [List.length_append, List.length_cons]
      omega
    have hrest := membersWithin_tokens ms false next (drafts_tokens v) rest hlength
    simp only [List.append_assoc, List.cons_append] at hrest
    simp only [Value.tokensAfterMember, List.append_assoc, List.cons_append, membersWithin,
      hd fuel _ (by omega), hrest]
    rfl

end

/-! ### Reading back -/

/-- The draft of a compact text is that of the value, and nothing is left behind it. Its tokens are
found first, and put together afterwards. -/
theorem Document.ofText_toList {v : Value} (h : v.IsWellFormed) :
    Document.ofText v.toList = ⟨v.draft, false⟩ := by
  have hlexes : Lexes v.toList v.tokens := by
    simpa only [List.append_nil] using lexes_toList v h endsValue_nil .nil
  have hdraft : draftWithin (2 * v.tokens.length + 2) v.tokens = (v.draft, []) := by
    simpa only [List.append_nil] using drafts_tokens v (2 * v.tokens.length + 2) [] (by omega)
  simp only [ofText, hlexes.tokens_eq, hdraft]
  rfl

/-- **A compact text is read as its value**: a decoder gives the same for both. What is proved about
reading a value holds of its text from here on. -/
theorem Decoder.text_compact {α : Type} (read : Decoder α) {v : Value} (h : v.IsWellFormed) :
    text read v.compact = value read v := by
  simp only [text, Value.compact, String.toList_ofList, Document.ofText_toList h, value]
  cases read v.draft <;> rfl

end Json

end EntityScript
