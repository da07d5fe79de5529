/-! # Searching texts

Whether one text occurs inside another, with or without regard to the case of ASCII letters. Letters
beyond ASCII are only ever equal to themselves. -/

namespace ServiceAccess.Text

/-- Whether a list of characters occurs inside another. -/
def occursIn (needle : List Char) : List Char → Bool
  | [] => needle.isEmpty
  | c :: cs => needle.isPrefixOf (c :: cs) || occursIn needle cs

/-- A character with ASCII capitals turned into small letters. -/
def foldCase (c : Char) : Char := if 'A' ≤ c ∧ c ≤ 'Z' then Char.ofNat (c.toNat + 32) else c

/-- Whether a text occurs inside another, ASCII letters compared without case. -/
def mentions (needle hay : String) : Bool :=
  occursIn (needle.toList.map foldCase) (hay.toList.map foldCase)

/-- What follows a lead, when a list begins with it. -/
def after? (lead cs : List Char) : Option (List Char) :=
  if lead.isPrefixOf cs then some (cs.drop lead.length) else none

end ServiceAccess.Text
