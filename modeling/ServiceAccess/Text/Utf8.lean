/-! # Reading UTF-8

`decode` reads bytes as UTF-8. Where the bytes are ill-formed, each maximal part that could have begun
a character becomes one `U+FFFD`. -/

namespace ServiceAccess.Text.Utf8

/-- The character that stands for ill-formed bytes. -/
def replacement : Char := Char.ofNat 0xFFFD

/-- What a leading byte asks of its followers: the value so far, how many bytes follow, and the range
of the first of them. -/
structure Lead where
  /-- The bits that the leading byte contributes. -/
  value : Nat
  /-- The number of bytes that must follow. -/
  followers : Nat
  /-- The least second byte. -/
  low : Nat
  /-- The greatest second byte. -/
  high : Nat

/-- The demands of a leading byte, if it can lead a character of several bytes. -/
def lead? (b : Nat) : Option Lead :=
  if 0xC2 ≤ b ∧ b ≤ 0xDF then some ⟨b - 0xC0, 1, 0x80, 0xBF⟩
  else if b = 0xE0 then some ⟨0, 2, 0xA0, 0xBF⟩
  else if b = 0xED then some ⟨0xD, 2, 0x80, 0x9F⟩
  else if 0xE1 ≤ b ∧ b ≤ 0xEF then some ⟨b - 0xE0, 2, 0x80, 0xBF⟩
  else if b = 0xF0 then some ⟨0, 3, 0x90, 0xBF⟩
  else if 0xF1 ≤ b ∧ b ≤ 0xF3 then some ⟨b - 0xF0, 3, 0x80, 0xBF⟩
  else if b = 0xF4 then some ⟨4, 3, 0x80, 0x8F⟩
  else none

/-- Read bytes from the state "a character of value `value` still needs `missing` bytes, the next of
them between `low` and `high`". With nothing missing, a new character begins. -/
def decodeFrom : List UInt8 → (missing value low high : Nat) → List Char
  | [], missing, _, _, _ => if missing = 0 then [] else [replacement]
  | b :: bs, missing, value, low, high =>
    let start := fun (lost : List Char) =>
      if b.toNat < 0x80 then lost ++ Char.ofNat b.toNat :: decodeFrom bs 0 0 0 0
      else match lead? b.toNat with
        | some l => lost ++ decodeFrom bs l.followers l.value l.low l.high
        | none => lost ++ replacement :: decodeFrom bs 0 0 0 0
    if missing = 0 then start []
    else if low ≤ b.toNat ∧ b.toNat ≤ high then
      let next := value * 64 + (b.toNat - 0x80)
      if missing = 1 then Char.ofNat next :: decodeFrom bs 0 0 0 0
      else decodeFrom bs (missing - 1) next 0x80 0xBF
    else start [replacement]

/-- Read bytes as UTF-8. -/
def decode (bytes : List UInt8) : String := String.ofList (decodeFrom bytes 0 0 0 0)

end ServiceAccess.Text.Utf8
