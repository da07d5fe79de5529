import ServiceAccess.Json.Basic
import ServiceAccess.Table

/-! # Reading JSON

`Json.parse?` reads one JSON value from a text and refuses everything else: comments, trailing commas,
a byte order mark, raw control characters in strings, leading zeros. Of a repeated member the first
place and the last value count. -/

namespace ServiceAccess.Json

/-- The blanks between tokens. -/
def isGap (c : Char) : Bool := c == ' ' || c == '\t' || c == '\n' || c == '\r'

/-- Drop the blanks in front. -/
def skip (cs : List Char) : List Char := cs.dropWhile isGap

/-- Read decimal digits: their value, their number, and what follows them. -/
def readDigits (cs : List Char) : Nat × Nat × List Char :=
  let ds := cs.takeWhile Char.isDigit
  (ds.foldl (fun n c => n * 10 + (c.toNat - 48)) 0, ds.length, cs.dropWhile Char.isDigit)

/-- Read the exponent of a number, if there is one. -/
def readExponent (cs : List Char) : Option (Int × List Char) :=
  match cs with
  | c :: rest =>
    if c = 'e' ∨ c = 'E' then
      let (negative, rest) := match rest with
        | '-' :: r => (true, r)
        | '+' :: r => (false, r)
        | r => (false, r)
      let (n, count, rest) := readDigits rest
      if count = 0 then none else some (if negative then -(n : Int) else n, rest)
    else some (0, cs)
  | [] => some (0, cs)

/-- Read a number without its sign. -/
def readMagnitude (negative : Bool) (cs : List Char) : Option (Number × List Char) :=
  let (whole, count, rest) := readDigits cs
  if count = 0 ∨ (count > 1 ∧ cs.head? = some '0') then none
  else
    let fraction : Option (Nat × Nat × List Char) := match rest with
      | '.' :: r =>
        let (n, places, r) := readDigits r
        if places = 0 then none else some (n, places, r)
      | r => some (0, 0, r)
    fraction.bind fun (n, places, rest) =>
      (readExponent rest).map fun (power, rest) =>
        (Number.ofDecimal negative ⟨whole * Nat.pow 10 places + n, power - places⟩, rest)

/-- The value of a hexadecimal digit. -/
def hexValue? (c : Char) : Option Nat :=
  if '0' ≤ c ∧ c ≤ '9' then some (c.toNat - 48)
  else if 'a' ≤ c ∧ c ≤ 'f' then some (c.toNat - 87)
  else if 'A' ≤ c ∧ c ≤ 'F' then some (c.toNat - 55)
  else none

/-- The value of four hexadecimal digits. -/
def hexUnit? (a b c d : Char) : Option Nat := do
  return (← hexValue? a) * 4096 + (← hexValue? b) * 256 + (← hexValue? c) * 16 + (← hexValue? d)

/-- The character of a short escape. -/
def shortEscape? (c : Char) : Option Char :=
  if c = '"' ∨ c = '\\' ∨ c = '/' then some c
  else if c = 'b' then some (Char.ofNat 8)
  else if c = 't' then some '\t'
  else if c = 'n' then some '\n'
  else if c = 'f' then some (Char.ofNat 12)
  else if c = 'r' then some '\r'
  else none

/-- Read a string up to its closing quote, as code points; an escape in hexadecimal digits gives a
16-bit unit, which may be half of a surrogate pair. -/
def readString : List Char → Option (List Nat × List Char)
  | '"' :: rest => some ([], rest)
  | '\\' :: 'u' :: a :: b :: c :: d :: rest =>
    match hexUnit? a b c d with
    | none => none
    | some n => (readString rest).map fun (ns, r) => (n :: ns, r)
  | '\\' :: e :: rest =>
    match shortEscape? e with
    | none => none
    | some c => (readString rest).map fun (ns, r) => (c.toNat :: ns, r)
  | c :: rest =>
    if c = '\\' ∨ c.toNat < 32 then none
    else (readString rest).map fun (ns, r) => (c.toNat :: ns, r)
  | [] => none

/-- Join surrogate pairs to characters. -/
def joinPairs : List Nat → List Char
  | high :: low :: rest =>
    if 0xD800 ≤ high ∧ high < 0xDC00 ∧ 0xDC00 ≤ low ∧ low < 0xE000 then
      Char.ofNat (0x10000 + (high - 0xD800) * 0x400 + (low - 0xDC00)) :: joinPairs rest
    else Char.ofNat high :: joinPairs (low :: rest)
  | [n] => [Char.ofNat n]
  | [] => []

/-- The text of the code points between two quotes. -/
def textOf (ns : List Nat) : String := String.ofList (joinPairs ns)

mutual
/-- Read one value. -/
def readValue : Nat → List Char → Option (Json × List Char)
  | 0, _ => none
  | fuel + 1, cs =>
    match skip cs with
    | '"' :: rest => (readString rest).map fun (ns, r) => (.str (textOf ns), r)
    | '[' :: rest =>
      match skip rest with
      | ']' :: r => some (.arr [], r)
      | r => (readItems fuel r).map fun (items, r) => (.arr items, r)
    | '\x7b' :: rest =>
      match skip rest with
      | '\x7d' :: r => some (.obj [], r)
      | r => (readMembers fuel r).map fun (members, r) => (.obj (Table.ofList members).entries, r)
    | 'n' :: 'u' :: 'l' :: 'l' :: r => some (.null, r)
    | 't' :: 'r' :: 'u' :: 'e' :: r => some (.bool true, r)
    | 'f' :: 'a' :: 'l' :: 's' :: 'e' :: r => some (.bool false, r)
    | '-' :: r => (readMagnitude true r).map fun (n, r) => (.num n, r)
    | r => (readMagnitude false r).map fun (n, r) => (.num n, r)

/-- Read the items of an array after its opening bracket. -/
def readItems : Nat → List Char → Option (List Json × List Char)
  | 0, _ => none
  | fuel + 1, cs =>
    match readValue fuel cs with
    | none => none
    | some (v, rest) =>
      match skip rest with
      | ',' :: r => (readItems fuel r).map fun (vs, r) => (v :: vs, r)
      | ']' :: r => some ([v], r)
      | _ => none

/-- Read the members of an object after its opening brace. -/
def readMembers : Nat → List Char → Option (List (String × Json) × List Char)
  | 0, _ => none
  | fuel + 1, cs =>
    match skip cs with
    | '"' :: r =>
      match readString r with
      | none => none
      | some (k, r) =>
        match skip r with
        | ':' :: r =>
          match readValue fuel r with
          | none => none
          | some (v, r) =>
            match skip r with
            | ',' :: r => (readMembers fuel r).map fun (ms, r) => ((textOf k, v) :: ms, r)
            | '\x7d' :: r => some ([(textOf k, v)], r)
            | _ => none
        | _ => none
    | _ => none
end

/-- Read a text that is one JSON value, blanks around it allowed. Every nested value takes at least one
character, so the fuel is never the limit. -/
def parse? (s : String) : Option Json :=
  let cs := s.toList
  match readValue (2 * cs.length + 3) cs with
  | some (v, rest) => if (skip rest).isEmpty then some v else none
  | none => none

end ServiceAccess.Json
