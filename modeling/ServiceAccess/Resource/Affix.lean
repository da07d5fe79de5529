import ServiceAccess.Credentials.Pattern
import ServiceAccess.Resource.Basic
import ServiceAccess.Text.Blank
import ServiceAccess.Text.Search

/-! # Shapes with a fixed lead and tail

An `AffixShape` recognises a fixed lead, one or more characters of a class, and an optional fixed tail. As
much as possible belongs to the class: the tail is dropped only where the class cannot take it. -/

namespace ServiceAccess

/-- The classes of characters of a shape. -/
inductive CharClass where
  /-- Small ASCII letters. -/
  | lower
  /-- ASCII digits. -/
  | digits
  /-- Small letters, digits and dashes. -/
  | name
  /-- Small letters and dashes. -/
  | lowerDash
  /-- Every character that does not end a line. -/
  | any
deriving DecidableEq

/-- Whether a class holds a character. -/
def CharClass.holds : CharClass → Char → Bool
  | .lower, c => Text.isLower c
  | .digits, c => Text.isDigit c
  | .name, c => Text.isLower c || Text.isDigit c || c == '-'
  | .lowerDash, c => Text.isLower c || c == '-'
  | .any, c => !Text.isLineEnd c

/-- A shape with a fixed lead and tail. -/
structure AffixShape where
  /-- Its short name. -/
  name : String
  /-- Its form in words. -/
  format : String
  /-- What comes first. -/
  lead : String
  /-- The class of the part between lead and tail. -/
  charClass : CharClass
  /-- What may come last. -/
  tail : String
  /-- ASCII letters match without regard to case. -/
  caseless : Bool
  /-- The class of any character takes the ends of lines too. -/
  acrossLines : Bool
  /-- What the canonical spelling puts before the part. -/
  canonicalLead : String
  /-- The name of the part. -/
  field : Option String
  /-- Named parts that are always the same. -/
  constants : List (String × Option String)
  /-- The failure of every text of this shape, if it only refuses. -/
  refuses : Option Failure

namespace AffixShape

/-- A character as the shape compares it. -/
def fold (s : AffixShape) (c : Char) : Char := if s.caseless then Text.foldCase c else c

/-- Whether the class of the shape takes a character. -/
def takes (s : AffixShape) (c : Char) : Bool :=
  s.charClass.holds (s.fold c) || (s.acrossLines && s.charClass = .any)

/-- A fixed text, as the shape compares characters. -/
def fixed (s : AffixShape) (text : String) : Regex := .spelled (fun c d => s.fold d == s.fold c) text

/-- The pattern of the shape. Its only group is the part between lead and tail. -/
def pattern (s : AffixShape) : List Regex.Part :=
  [.skip (s.fixed s.lead), .group (.plus (.one s.takes)), .skip (.opt (s.fixed s.tail))]

/-- The shape as one that a resolver can try. -/
def toShape (s : AffixShape) : Shape where
  name := s.name
  format := s.format
  recognise cs := (Regex.exec? s.pattern cs).map fun found =>
    match s.refuses with
    | some failure => .error failure
    | none =>
      let text := found.group 0
      let own := (s.field.map fun f => (f, some text)).toList
      .ok ⟨s.canonicalLead ++ text, .ofList (own ++ s.constants)⟩

end AffixShape

end ServiceAccess
