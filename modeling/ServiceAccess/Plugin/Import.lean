import ServiceAccess.Failure
import ServiceAccess.Text.Path

/-! # Where imports lead

A module is imported by the path of its file, and the path is read as the path of a web address: what follows a
question mark or a hash is no part of it, a backslash is a slash, bytes may be written in hexadecimal behind a
percent sign, and some white space is dropped. So the file that is reached need not be the one that the path names.

* `Import.place` is the path of the file that importing a path leads to. -/

namespace ServiceAccess.Import

/-- What separates the segments of an address. -/
def isSeparator (c : Char) : Bool := c = '/' || c = '\\'

/-- What begins a query or a fragment. -/
def endsPath (c : Char) : Bool := c = '?' || c = '#'

/-- What an address does not have anywhere. -/
def isLineSpace (c : Char) : Bool := c = '\t' || c = '\n' || c = '\r'

/-- The path of an address: without line space, without white space at the end, and up to a query or a fragment. -/
def addressPath (path : String) : List Char :=
  ((path.toList.filter (!isLineSpace ·)).reverse.dropWhile (· ≤ ' ')).reverse.takeWhile (!endsPath ·)

/-- A segment with its dots written as such. -/
def withDots : List Char → List Char
  | '%' :: '2' :: e :: rest => if e = 'e' || e = 'E' then '.' :: withDots rest else '%' :: '2' :: withDots (e :: rest)
  | c :: rest => c :: withDots rest
  | [] => []

/-- A first segment that is a drive letter is followed by a colon. -/
def drive : List Char → List Char
  | [letter, '|'] => if letter.isAlpha then [letter, ':'] else [letter, '|']
  | segment => segment

/-- The segments read so far, latest first, without the last one. A drive letter stays. -/
def parent : List (List Char) → List (List Char)
  | [[letter, ':']] => if letter.isAlpha then [[letter, ':']] else []
  | read => read.tail

/-- Resolve dots against the segments read so far, latest first. Dots at the end leave an empty segment. -/
def climb : List (List Char) → (read : List (List Char)) → List (List Char)
  | [], read => read.reverse
  | segment :: rest, read =>
    let ended := if rest.isEmpty then [[]] else []
    if withDots segment = ['.', '.'] then climb rest (ended ++ parent read)
    else if withDots segment = ['.'] then climb rest (ended ++ read)
    else climb rest ((if read.isEmpty then drive segment else segment) :: read)

/-- The value of a hexadecimal digit. -/
def hexDigit? (c : Char) : Option Nat :=
  if c.isDigit then some (c.toNat - '0'.toNat)
  else if 'a' ≤ c && c ≤ 'f' then some (c.toNat - 'a'.toNat + 10)
  else if 'A' ≤ c && c ≤ 'F' then some (c.toNat - 'A'.toNat + 10)
  else none

/-- The byte that two digits write. A separator cannot be written so. -/
def byte? (high low : Char) : Option UInt8 := do
  let n := (← hexDigit? high) * 16 + (← hexDigit? low)
  if isSeparator (Char.ofNat n) then none else some n.toUInt8

/-- The bytes of a segment, if all percent signs are followed by two digits. -/
def bytes? : List Char → Option (List UInt8)
  | [] => some []
  | '%' :: high :: low :: rest => do return (← byte? high low) :: (← bytes? rest)
  | c :: rest => if c = '%' then none else (bytes? rest).map (String.utf8EncodeChar c ++ ·)

/-- The text that a segment writes, if its bytes are UTF-8. -/
def segmentText? (segment : List Char) : Option (List Char) := do
  let bytes ← bytes? segment
  bytes.toByteArray.utf8Decode?.map Array.toList

/-- The failure of an import that leads to no file. -/
def misread : Failure := .service ⟨"TypeError", "<module path error>", none, none, none⟩

/-- What stands below the root of an address, if it has one. -/
def below (address : List Char) : List Char := if address.head? = some '/' then address.tail else address

/-- **The path of the file that importing a path leads to.** A second slash at the start of an absolute path is that of a
host, not of a file. -/
def place (path : String) : Except Failure String :=
  let address := addressPath path
  let root := if address.head? = some '/' then "/" else ""
  if ((below address).head?.map isSeparator).getD false then .error misread
  else match (climb ((below address).splitOnP isSeparator) []).mapM segmentText? with
    | some segments => .ok (Text.Path.normalize (root ++ Text.Path.ofParts segments))
    | none => .error misread

end ServiceAccess.Import
