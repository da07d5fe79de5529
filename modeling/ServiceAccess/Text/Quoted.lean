/-! # Quoted texts

The JSON spelling of a text: quotes around it, a backslash before a quote and a backslash, the short
escapes for the five common controls, and four hexadecimal digits for every other control below
`U+0020`. All other characters stand for themselves. -/

namespace ServiceAccess.Text

/-- The hexadecimal digit of a number below sixteen, in small letters. -/
def hexDigit (n : Nat) : Char :=
  if n < 10 then Char.ofNat (48 + n) else Char.ofNat (87 + n)

/-- Four hexadecimal digits. -/
def hex4 (n : Nat) : List Char :=
  [hexDigit (n / 4096 % 16), hexDigit (n / 256 % 16), hexDigit (n / 16 % 16), hexDigit (n % 16)]

/-- The spelling of one character between quotes. -/
def escape (c : Char) : List Char :=
  if c = '"' then ['\\', '"']
  else if c = '\\' then ['\\', '\\']
  else if c.toNat = 8 then ['\\', 'b']
  else if c.toNat = 9 then ['\\', 't']
  else if c.toNat = 10 then ['\\', 'n']
  else if c.toNat = 12 then ['\\', 'f']
  else if c.toNat = 13 then ['\\', 'r']
  else if c.toNat < 32 then '\\' :: 'u' :: hex4 c.toNat
  else [c]

/-- The quoted spelling of a list of characters. -/
def quoteChars (cs : List Char) : List Char := '"' :: (cs.flatMap escape ++ ['"'])

/-- The quoted spelling of a text. -/
def quote (s : String) : String := String.ofList (quoteChars s.toList)

end ServiceAccess.Text
