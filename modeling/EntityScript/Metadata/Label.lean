/-!
# Labels

A label is a text in several languages, each with a language code. The text for a language is the
first one that carries its code.
-/

namespace EntityScript

namespace Metadata

/-- A text in one language. -/
structure LocalizedLabel where
  text : String := ""
  languageCode : Int32 := 0
deriving DecidableEq, Repr, Inhabited

/-- A text in several languages. -/
structure Label where
  localizedLabels : List LocalizedLabel := []
  /-- The text in the language of whoever exported the record. -/
  userLocalizedLabel : Option LocalizedLabel := none
deriving DecidableEq, Repr, Inhabited

namespace Label

/-- The label with one more text at its end. -/
def add (label : Label) (text : String) (languageCode : Int32) : Label :=
  { label with localizedLabels := label.localizedLabels ++ [⟨text, languageCode⟩] }

/-- The text for a language, if the label has one. -/
def localized (label : Label) (languageCode : Int32) : Option String :=
  (label.localizedLabels.find? (·.languageCode == languageCode)).map (·.text)

end Label

end Metadata

end EntityScript
