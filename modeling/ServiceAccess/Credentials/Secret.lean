/-! # Secrets

A secret shows a mask wherever it is written; only `Secret.cleartext` gives the text itself. -/

namespace ServiceAccess

/-- A text that is never shown. -/
structure Secret where
  /-- The text itself, for use. -/
  cleartext : String
deriving DecidableEq

namespace Secret

/-- What stands in place of every secret. -/
def mask : String := "**********"

/-- A secret inside a text or a JSON value. -/
def display (_ : Secret) : String := mask

/-- A secret in a debugging view. -/
def inspect (_ : Secret) : String := "SecretValue(" ++ mask ++ ")"

/-- Whether two secrets hold the same text. -/
def sameAs (s t : Secret) : Bool := decide (s.cleartext = t.cleartext)

end Secret

end ServiceAccess
