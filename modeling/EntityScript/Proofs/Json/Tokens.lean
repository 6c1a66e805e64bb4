import EntityScript.Json.Token
import Mathlib.Tactic.SplitIfs

/-!
# The tokens of what is written

A scalar is cut off as the token it was written for: a quoted string whatever its characters are
(`stringToken_quote`), a numeral before anything that may stand behind a value
(`numberToken_append`). `Lexes` puts such tokens together: it says of a text that it is a list of
tokens and nothing else, and it grows at the front, one token at a time.
-/

namespace EntityScript

namespace Json

/-! ### Characters of strings -/

theorem hexValue?_hexDigit (n : Nat) : hexValue? (hexDigit n) = some (n % 16) := by
  have hall : ∀ d < 16, hexValue? (Nat.digitChar d) = some d := by decide
  exact hall (n % 16) (Nat.mod_lt n (by decide))

/-- The digits of a control character are read as its number, with the two zeros that are always
written before them. -/
theorem hexNumber?_hexDigit {n : Nat} (h : n < 0x100) :
    hexNumber? '0' '0' (hexDigit (n / 16)) (hexDigit n) = some n := by
  have hzero : hexValue? '0' = some 0 := by decide
  simp only [hexNumber?, hzero, hexValue?_hexDigit, Option.bind_eq_bind, Option.bind_some,
    Option.pure_def, Option.some.injEq]
  omega

/-- The written text is scanned as one piece, which stands for the character. -/
def StandsFor (written : List Char) (c : Char) : Prop :=
  ∃ p : Piece,
    (∀ s, scanString (written ++ s) = ⟨p :: (scanString s).pieces, (scanString s).rest⟩) ∧
    ∀ cut ps, joinPieces cut (p :: ps) = (joinPieces cut ps).map (c :: ·)

/-- A character that needs no escape stands for itself. It is neither a quote nor a backslash, and
no control character. -/
theorem standsFor_self {c : Char} (hquote : c ≠ '"') (hbackslash : c ≠ '\\')
    (hcontrol : ¬ c.toNat < 0x20) : StandsFor [c] c := by
  refine ⟨.plain c, fun s => ?_, fun _ _ => rfl⟩
  rw [List.singleton_append, scanString.eq_7 c s hquote (fun h => absurd h hbackslash)
    (fun _ _ _ _ _ h => absurd h hbackslash) (fun _ h => absurd h hbackslash)
    (fun _ _ h => absurd h hbackslash), if_neg hcontrol]

/-- An escape of one letter stands for the character that it is an escape of. The letter must not be
the one that begins a number. -/
theorem standsFor_simpleEscape {c d : Char} (hd : d ≠ 'u') (h : simpleEscape? d = some c) :
    StandsFor ['\\', d] c := by
  refine ⟨.plain c, fun s => ?_, fun _ _ => rfl⟩
  rw [List.cons_append, List.singleton_append,
    scanString.eq_6 d s (fun _ _ _ _ _ h => absurd h hd) (fun h => absurd h hd)]
  simp only [h]

/-- A control character may be written by its number. The number is never that of half a pair. -/
theorem standsFor_codeUnit {c : Char} (h : c.toNat < 0x100) :
    StandsFor ['\\', 'u', '0', '0', hexDigit (c.toNat / 16), hexDigit c.toNat] c := by
  refine ⟨.codeUnit c.toNat, fun s => ?_, fun cut ps => ?_⟩
  · simp only [List.cons_append, List.nil_append]
    rw [scanString.eq_4, hexNumber?_hexDigit h]
  · -- The number is below those of surrogates.
    have hlow : isLowSurrogate c.toNat = false := by
      simp only [isLowSurrogate, Bool.and_eq_false_iff, decide_eq_false_iff_not]
      omega
    have hhigh : isHighSurrogate c.toNat = false := by
      simp only [isHighSurrogate, Bool.and_eq_false_iff, decide_eq_false_iff_not]
      omega
    rw [joinPieces.eq_def]
    simp only [hlow, hhigh, Bool.false_eq_true, if_false, Char.ofNat_toNat]

/-- Every character has a written form that stands for it: there is one case for each way in which a
character is written. -/
theorem standsFor_escapeChar (c : Char) : StandsFor (escapeChar c) c := by
  have hofNat : ∀ {n : Nat}, c.toNat = n → Char.ofNat n = c := fun h => h ▸ Char.ofNat_toNat c
  unfold escapeChar
  split
  · exact standsFor_simpleEscape (by decide) rfl
  · exact standsFor_simpleEscape (by decide) rfl
  · exact standsFor_simpleEscape (by decide) rfl
  · exact standsFor_simpleEscape (by decide) rfl
  · exact standsFor_simpleEscape (by decide) rfl
  · split_ifs with hbackspace hformfeed hcontrol
    · exact standsFor_simpleEscape (by decide) (congrArg some (hofNat hbackspace))
    · exact standsFor_simpleEscape (by decide) (congrArg some (hofNat hformfeed))
    · exact standsFor_codeUnit (by omega)
    · exact standsFor_self ‹_› ‹_› hcontrol

/-! ### Strings -/

/-- The written characters are scanned up to the closing quote and joined to the text that was
quoted. -/
theorem exists_scanString_escape (s rest : List Char) :
    ∃ ps, scanString (s.flatMap escapeChar ++ '"' :: rest) = ⟨ps, .ok rest⟩ ∧
      joinPieces false ps = some s := by
  induction s with
  | nil => exact ⟨[], scanString.eq_2 rest, rfl⟩
  | cons c s ih =>
    obtain ⟨ps, hscan, hjoin⟩ := ih
    obtain ⟨p, hpiece, hstands⟩ := standsFor_escapeChar c
    refine ⟨p :: ps, ?_, by rw [hstands, hjoin]; rfl⟩
    rw [List.flatMap_cons, List.append_assoc, hpiece, hscan]

/-- **A quoted string is one token**, with the text that was quoted. Text behind the closing quote
is left as it is. -/
theorem stringToken_quote (text : String) (rest : List Char) :
    stringToken (text.toList.flatMap escapeChar ++ '"' :: rest) = (.string (some text), rest) := by
  obtain ⟨ps, hscan, hjoin⟩ := exists_scanString_escape text.toList rest
  simp only [stringToken, hscan, hjoin, Option.map_some, String.ofList_toList]

/-! ### Numbers -/

/-- The text is at its end, or begins with what may stand behind a value. -/
def EndsValue (s : List Char) : Prop :=
  ∀ c ∈ s.head?, c = ',' ∨ c = ']' ∨ c = '\x7d'

theorem endsValue_nil : EndsValue [] :=
  fun _ hc => nomatch hc

/-- A run of digits is taken whole where no digit follows it. Each of the three parts of a numeral
ends in this way. -/
theorem takeWhile_isDigit_append {digits s : List Char} (h : ∀ c ∈ digits, c.isDigit = true)
    (hs : ∀ c ∈ s.head?, c.isDigit = false) :
    (digits ++ s).takeWhile Char.isDigit = digits ∧ (digits ++ s).dropWhile Char.isDigit = s := by
  rw [List.takeWhile_append_of_pos h, List.dropWhile_append_of_pos h]
  cases s with
  | nil => simp
  | cons c s =>
    have hc : c.isDigit = false := hs c rfl
    simp [hc]

namespace Numeral

/-- The numeral is one of JSON: digits where some are due, and no zero in front of others. -/
structure IsWellFormed (n : Numeral) : Prop where
  whole_ne_nil : n.whole ≠ []
  isDigit_whole : ∀ c ∈ n.whole, c.isDigit = true
  eq_nil_of_zero : ∀ digits, n.whole = '0' :: digits → digits = []
  isDigit_fraction : ∀ c ∈ n.fraction, c.isDigit = true
  exponent_ne_nil : ∀ e ∈ n.exponent, e.2 ≠ []
  isDigit_exponent : ∀ e ∈ n.exponent, ∀ c ∈ e.2, c.isDigit = true

/-- What is written of the digits after the point. -/
def fractionText (fraction : List Char) : List Char :=
  if fraction = [] then [] else '.' :: fraction

/-- What is written of an exponent. -/
def exponentText : Option (Bool × List Char) → List Char
  | none => []
  | some (negative, digits) => 'e' :: (if negative then '-' :: digits else digits)

/-- The parts of a numeral in front of more text, put so that each is followed by all others. In
this form the reader takes them off from the left. -/
theorem toList_append (n : Numeral) (s : List Char) :
    n.toList ++ s = (if n.negative then ['-'] else []) ++
      (n.whole ++ (fractionText n.fraction ++ (exponentText n.exponent ++ s))) := by
  simp only [← List.append_assoc]
  rfl

end Numeral

open Numeral (exponentText fractionText)

section

variable {n : Numeral} (h : n.IsWellFormed) {s : List Char} (hs : EndsValue s)

include hs

/-- Neither a digit nor a point follows the digits after the point, so they end where they were
written to end. -/
theorem head?_exponentText (e : Option (Bool × List Char)) :
    ∀ c ∈ (exponentText e ++ s).head?, c ≠ '.' ∧ c.isDigit = false := by
  intro c hc
  cases e with
  | none => rcases hs c hc with rfl | rfl | rfl <;> decide
  | some e =>
    obtain rfl : 'e' = c := Option.some.inj hc
    decide

/-- No digit follows the whole digits: what follows is a point, an exponent, or the end of the
value. -/
theorem head?_fractionText (n : Numeral) :
    ∀ c ∈ (fractionText n.fraction ++ (exponentText n.exponent ++ s)).head?,
      c.isDigit = false := by
  rw [fractionText]
  split_ifs
  · exact fun c hc => (head?_exponentText hs n.exponent c hc).2
  · intro c hc
    obtain rfl : '.' = c := Option.some.inj hc
    decide

include h

/-- The exponent is read as it was written, and so the numeral is complete. Its sign is read first,
if there is one, and then its digits. -/
theorem exponentToken_append :
    exponentToken { n with exponent := none } (exponentText n.exponent ++ s) = (.number n, s) := by
  obtain ⟨sign, whole, fraction, _ | ⟨negative, digits⟩⟩ := n
  · cases s with
    | nil => rfl
    | cons c s =>
      have hc : ¬ (c = 'e' || c = 'E') = true := by
        rcases hs c rfl with rfl | rfl | rfl <;> decide
      exact if_neg hc
  · obtain ⟨htake, hdrop⟩ := takeWhile_isDigit_append (h.isDigit_exponent _ rfl)
      fun c hc => (head?_exponentText hs none c hc).2
    simp only [exponentText, List.nil_append] at htake hdrop
    have hdigits : digits ≠ [] := h.exponent_ne_nil _ rfl
    cases negative with
    | true => simp [exponentText, exponentToken, htake, hdrop, hdigits]
    | false =>
      -- The first digit is no sign.
      obtain ⟨d, ds, rfl⟩ := List.exists_cons_of_ne_nil hdigits
      have hd : d.isDigit = true := h.isDigit_exponent _ rfl d List.mem_cons_self
      have hminus : d ≠ '-' := by rintro rfl; exact absurd hd (by decide)
      have hplus : d ≠ '+' := by rintro rfl; exact absurd hd (by decide)
      rw [List.cons_append] at htake hdrop
      simp [exponentText, exponentToken, hminus, hplus, htake, hdrop]

/-- The digits after the point are read as they were written, and the exponent behind them. Without
a point, the exponent may follow the whole digits at once. -/
theorem fractionToken_append :
    fractionToken { n with fraction := [], exponent := none }
      (fractionText n.fraction ++ (exponentText n.exponent ++ s)) = (.number n, s) := by
  have hexponent := exponentToken_append h hs
  by_cases hfraction : n.fraction = []
  · rw [hfraction] at hexponent ⊢
    rw [fractionText, if_pos rfl, List.nil_append, ← hexponent, fractionToken.eq_def]
    split
    · next heq =>
      exact absurd rfl (head?_exponentText hs n.exponent '.' (by rw [heq]; rfl)).1
    · rw [← hfraction]
  · obtain ⟨htake, hdrop⟩ := takeWhile_isDigit_append h.isDigit_fraction
      fun c hc => (head?_exponentText hs n.exponent c hc).2
    rw [fractionText, if_neg hfraction, ← hexponent]
    simp [fractionToken, htake, hdrop, hfraction]

/-- **A numeral is one token** before anything that may stand behind a value. Its three parts are
read one after the other, from left to right. -/
theorem numberToken_append :
    numberToken n.negative
      (n.whole ++ (fractionText n.fraction ++ (exponentText n.exponent ++ s))) =
        (.number n, s) := by
  obtain ⟨htake, hdrop⟩ := takeWhile_isDigit_append h.isDigit_whole (head?_fractionText hs n)
  have hfraction := fractionToken_append h hs
  rw [numberToken]
  simp only [htake, hdrop]
  split
  · next hwhole => exact absurd hwhole h.whole_ne_nil
  · next d ds hwhole => exact absurd (h.eq_nil_of_zero _ hwhole) (List.cons_ne_nil d ds)
  · exact hfraction

end

/-- A digit is no space and begins a number. No other kind of token begins with one. -/
theorem nextToken_of_isDigit {c : Char} (h : c.isDigit = true) (s : List Char) :
    isSpace c = false ∧ nextToken c s = numberToken false (c :: s) := by
  have hne : ∀ {d : Char}, d.isDigit = false → c ≠ d := by
    rintro d hd rfl
    rw [h] at hd
    cases hd
  have hspaces : c ≠ ' ' ∧ c ≠ '\n' ∧ c ≠ '\t' ∧ c ≠ '\r' :=
    ⟨hne (by decide), hne (by decide), hne (by decide), hne (by decide)⟩
  have hmarks : c ≠ ',' ∧ c ≠ ':' ∧ c ≠ '[' ∧ c ≠ ']' ∧ c ≠ '\x7b' ∧ c ≠ '\x7d' :=
    ⟨hne (by decide), hne (by decide), hne (by decide), hne (by decide), hne (by decide),
      hne (by decide)⟩
  have hscalars : c ≠ '"' ∧ c ≠ '-' := ⟨hne (by decide), hne (by decide)⟩
  exact ⟨by simp [isSpace, hspaces], by simp [nextToken, h, hmarks, hscalars]⟩

/-! ### Texts cut into tokens -/

/-- `Lexes s ts`: the text `s` is the tokens `ts` and nothing else, with no space before any of
them. -/
inductive Lexes : List Char → List Token → Prop
  | nil : Lexes [] []
  | cons {c : Char} {s rest : List Char} {t : Token} {ts : List Token} (hspace : isSpace c = false)
      (hnext : nextToken c s = (t, rest)) (hlength : rest.length ≤ s.length)
      (tail : Lexes rest ts) : Lexes (c :: s) (t :: ts)

namespace Lexes

variable {s : List Char} {ts : List Token}

theorem length_le (h : Lexes s ts) : ts.length ≤ s.length := by
  induction h with
  | nil => exact Nat.le_refl 0
  | cons _ _ hlength _ ih => exact Nat.succ_le_succ (Nat.le_trans ih hlength)

/-- The tokens of a text are found with fuel for each of them. The fuel is counted by tokens, and
the reader brings as much of it as there are characters. -/
theorem tokensWithin_eq (h : Lexes s ts) {fuel : Nat} (hfuel : ts.length ≤ fuel) :
    tokensWithin fuel s = ts := by
  induction h generalizing fuel with
  | nil => cases fuel <;> rfl
  | cons hspace hnext _ _ ih =>
    cases fuel with
    | zero => exact absurd hfuel (Nat.not_succ_le_zero _)
    | succ fuel =>
      rw [tokensWithin]
      simp only [List.dropWhile_cons, hspace, Bool.false_eq_true, if_false, hnext,
        ih (Nat.le_of_succ_le_succ hfuel)]

/-- The tokens of a text are found, as there are no more of them than characters. -/
theorem tokens_eq (h : Lexes s ts) : tokens s = ts :=
  h.tokensWithin_eq h.length_le

theorem mark (h : Lexes s ts) {c : Char} {t : Token} (hspace : isSpace c = false)
    (hnext : ∀ s, nextToken c s = (t, s)) : Lexes (c :: s) (t :: ts) :=
  cons hspace (hnext s) (Nat.le_refl _) h

theorem comma (h : Lexes s ts) : Lexes (',' :: s) (.comma :: ts) :=
  h.mark rfl fun _ => rfl

theorem colon (h : Lexes s ts) : Lexes (':' :: s) (.colon :: ts) :=
  h.mark rfl fun _ => rfl

theorem openArray (h : Lexes s ts) : Lexes ('[' :: s) (.openArray :: ts) :=
  h.mark rfl fun _ => rfl

theorem closeArray (h : Lexes s ts) : Lexes (']' :: s) (.closeArray :: ts) :=
  h.mark rfl fun _ => rfl

theorem openObject (h : Lexes s ts) : Lexes ('\x7b' :: s) (.openObject :: ts) :=
  h.mark rfl fun _ => rfl

theorem closeObject (h : Lexes s ts) : Lexes ('\x7d' :: s) (.closeObject :: ts) :=
  h.mark rfl fun _ => rfl

theorem null (h : Lexes s ts) : Lexes ("null".toList ++ s) (.null :: ts) :=
  cons rfl rfl (Nat.le_add_right s.length 3) h

theorem bool (h : Lexes s ts) (b : Bool) :
    Lexes ((Value.bool b).toList ++ s) (.bool b :: ts) := by
  cases b with
  | true => exact cons rfl rfl (Nat.le_add_right s.length 3) h
  | false => exact cons rfl rfl (Nat.le_add_right s.length 4) h

/-- A quoted text in front of tokens is one more of them. -/
theorem string (h : Lexes s ts) (text : String) :
    Lexes (quote text.toList ++ s) (.string (some text) :: ts) := by
  have hnext : nextToken '"' (text.toList.flatMap escapeChar ++ '"' :: s) =
      (.string (some text), s) := stringToken_quote text s
  have hlength : s.length ≤ (text.toList.flatMap escapeChar ++ '"' :: s).length := by
    simp only [List.length_append, List.length_cons]
    omega
  simpa only [quote, List.cons_append, List.append_assoc, List.nil_append] using
    cons rfl hnext hlength h

/-- A numeral in front of tokens is one more of them, if it is clear where it ends. A sign in front
of the digits is read by itself. -/
theorem number (h : Lexes s ts) {n : Numeral} (hn : n.IsWellFormed) (hs : EndsValue s) :
    Lexes (n.toList ++ s) (.number n :: ts) := by
  have hnext := numberToken_append hn hs
  have hlength : ∀ digits : List Char, s.length ≤
      (digits ++ (fractionText n.fraction ++ (exponentText n.exponent ++ s))).length := by
    intro digits
    simp only [List.length_append]
    omega
  rw [Numeral.toList_append]
  cases hsign : n.negative with
  | true =>
    rw [hsign] at hnext
    exact cons rfl hnext (hlength n.whole) h
  | false =>
    -- The first digit tells that it is a number.
    obtain ⟨d, ds, hwhole⟩ := List.exists_cons_of_ne_nil hn.whole_ne_nil
    have hd : d.isDigit = true := hn.isDigit_whole d (hwhole ▸ List.mem_cons_self)
    rw [hsign, hwhole] at hnext
    rw [hwhole]
    obtain ⟨hspace, hnumber⟩ := nextToken_of_isDigit hd
      (ds ++ (fractionText n.fraction ++ (exponentText n.exponent ++ s)))
    exact cons hspace (hnumber.trans hnext) (hlength ds) h

end Lexes

end Json

end EntityScript
