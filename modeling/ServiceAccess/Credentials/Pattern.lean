import ServiceAccess.Text.Regex

/-! # Patterns of credential texts

A pattern of a credential schema is given by its written form and by the texts that have it. Those that the
known schemas use are written out. -/

namespace ServiceAccess

namespace Text

/-- Whether a character is a small ASCII letter. -/
def isLower (c : Char) : Bool := 'a' ≤ c && c ≤ 'z'

/-- Whether a character is an ASCII digit. -/
def isDigit (c : Char) : Bool := '0' ≤ c && c ≤ '9'

end Text

/-- A pattern: how it is written, and which texts have its form. -/
structure Pattern where
  /-- The written form, as messages and schemas show it. -/
  source : String
  /-- Whether a text has the form. -/
  accepts : String → Bool

namespace Pattern

/-- The start of a web address: a scheme with or without encryption. -/
def webLead : Regex := .seq (.word "http") (.seq (.opt (.word "s")) (.word "://"))

/-- A word of small letters. -/
def smallWord : Regex := .plus (.one Text.isLower)

/-- A cloud region: two letters, words of letters and a number, joined by dashes. -/
def region : Pattern where
  source := "^[a-z]\x7b2\x7d(-[a-z]+)+-[0-9]+$"
  accepts := Regex.acceptsWhole (.seq (.times (.one Text.isLower) 2)
    (.seq (.plus (.seq (.word "-") smallWord)) (.seq (.word "-") (.plus (.one Text.isDigit)))))

/-- What starts like a web address. -/
def webAddress : Pattern where
  source := "^https?://"
  accepts := Regex.acceptsStart webLead

/-- One or more small letters. -/
def smallLetters : Pattern where
  source := "^[a-z]+$"
  accepts := Regex.acceptsWhole smallWord

/-- The known pattern of a written form. -/
def ofSource? (s : String) : Option Pattern :=
  [region, webAddress, smallLetters].find? fun p => p.source = s

end Pattern

end ServiceAccess
