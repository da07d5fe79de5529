/-! # Blank characters and trimming

The blank characters are ASCII white space (with the vertical tab and the form feed), the line and
paragraph separators, the byte order mark and the Unicode space separators. The next-line control
`U+0085`, the vowel separator `U+180E` and the zero-width space `U+200B` are not blank. -/

namespace ServiceAccess.Text

/-- Whether a character is blank. -/
def isBlank (c : Char) : Bool :=
  let n := c.toNat
  (0x09 ≤ n && n ≤ 0x0D) || n == 0x20 || n == 0xA0 || n == 0x1680 || (0x2000 ≤ n && n ≤ 0x200A)
    || n == 0x2028 || n == 0x2029 || n == 0x202F || n == 0x205F || n == 0x3000 || n == 0xFEFF

/-- Drop blank characters at both ends of a list. -/
def trimChars (cs : List Char) : List Char :=
  ((cs.dropWhile isBlank).reverse.dropWhile isBlank).reverse

/-- Drop blank characters at both ends of a text. -/
def trim (s : String) : String := String.ofList (trimChars s.toList)

/-- The characters that end a line: line feed, carriage return and the two Unicode separators. -/
def isLineEnd (c : Char) : Bool :=
  c == '\n' || c == '\r' || c.toNat == 0x2028 || c.toNat == 0x2029

end ServiceAccess.Text
