import EntityScript.Markup.Event

/-!
# Nesting of events

The reader delivers an end tag only where it closes the innermost open element, and otherwise ends
with a fault (`EndsMatch`, **`endsMatch_read`**). Where also every element is closed, the events are
nested (`Nested`): each start tag has its own end tag, and the tags between the two are nested
themselves.
-/

namespace EntityScript

namespace Markup

/-- The event is a start tag or an end tag. -/
def Event.isTag : Event → Bool
  | .start _ | .stop _ => true
  | _ => false

/-! ### Matching ends -/

/-- Every end tag closes the innermost open element; `opened` are the elements open at first,
innermost first. -/
def EndsMatch : (opened : List String) → List Event → Prop
  | _, [] => True
  | opened, e :: es =>
    (∀ name, e = .stop name → opened.head? = some name) ∧ EndsMatch (openedAfter opened e) es

/-- End tags match in the beginning of a list of events if they match in all of it. -/
theorem EndsMatch.of_append {opened : List String} {es fs : List Event}
    (h : EndsMatch opened (es ++ fs)) : EndsMatch opened es := by
  induction es generalizing opened with
  | nil => trivial
  | cons e es ih => exact ⟨h.1, ih h.2⟩

section

variable {opened : List String} {s rest : List Char} {name : String}

/-- What begins with an exclamation mark is not read as an end tag. It may be a comment, character
data or a declaration. -/
theorem bangPiece_ne_stop : bangPiece s ≠ .event (.stop name) rest := by
  intro h
  unfold bangPiece at h
  repeat' split at h
  all_goals cases h

theorem instructionPiece_ne_stop : instructionPiece s ≠ .event (.stop name) rest := by
  unfold instructionPiece
  grind

/-- An opening tag is not read as an end tag, not even where the element has no content. -/
theorem openingPiece_ne_stop : openingPiece s ≠ .event (.stop name) rest := by
  unfold openingPiece
  grind

theorem head?_of_closingPiece (h : closingPiece opened s = .event (.stop name) rest) :
    opened.head? = some name := by
  unfold closingPiece at h
  grind

/-- Markup that is read as an end tag closes the innermost open element, as only closing tags
are. -/
theorem head?_of_markupPiece (h : markupPiece opened s = .event (.stop name) rest) :
    opened.head? = some name := by
  unfold markupPiece at h
  split at h
  · cases h
  · exact absurd h bangPiece_ne_stop
  · exact head?_of_closingPiece h
  · exact absurd h instructionPiece_ne_stop
  · exact absurd h openingPiece_ne_stop

end

/-- Every end tag that is read closes the innermost open element, also where the reader ends with a
fault later on. -/
theorem endsMatch_readWithin (fuel : Nat) (opened : List String) (offset : Nat) (s : List Char) :
    EndsMatch opened (readWithin fuel opened offset s).events := by
  fun_induction readWithin fuel opened offset s with
  | case1 => trivial
  | case2 => trivial
  | case3 => trivial
  | case4 fuel opened offset s e rest hpiece taken later ih =>
    refine ⟨?_, ih⟩
    rintro name rfl
    exact head?_of_markupPiece hpiece
  | case5 fuel opened offset s hne hlt raw later ih => exact ⟨nofun, ih⟩

/-- **The reader checks end tags.** No other end tag than that of the innermost open element is
delivered, so readers of events need not look for one. -/
theorem endsMatch_read (s : String) : EndsMatch [] (read s).events :=
  endsMatch_readWithin _ _ _ _

/-! ### Nested events -/

/-- Every element is closed by its own end tag, and the elements are properly nested. -/
inductive Nested : List Event → Prop
  | nil : Nested []
  | cons {e : Event} {es : List Event} (he : e.isTag = false) (h : Nested es) : Nested (e :: es)
  | element {name : String} {inside es : List Event} (hinside : Nested inside) (h : Nested es) :
    Nested (.start name :: (inside ++ .stop name :: es))

end Markup

end EntityScript
