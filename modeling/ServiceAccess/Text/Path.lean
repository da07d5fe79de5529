/-! # Paths

Slash-separated paths. Normalising resolves empty, `.` and `..` segments without looking at any
directory, and keeps one trailing slash. Joining normalises; absolute paths also lose the trailing
slash. -/

namespace ServiceAccess.Text.Path

/-- The parts between slashes. -/
def parts (p : String) : List (List Char) := p.toList.splitOn '/'

/-- Parts with slashes between them. -/
def ofParts (parts : List (List Char)) : String := String.ofList (['/'].intercalate parts)

/-- The segments between slashes. -/
def segments (p : String) : List (List Char) := (parts p).filter fun s => s ≠ [] ∧ s ≠ ['.']

/-- Resolve `..` against the segments read so far, latest first. A `..` at the top stays unless the
path is absolute. -/
def climb (absolute : Bool) : List (List Char) → List (List Char) → List (List Char)
  | [], read => read.reverse
  | s :: rest, read =>
    if s = ['.', '.'] then
      match read with
      | r :: rs => if r = ['.', '.'] then climb absolute rest (s :: read) else climb absolute rest rs
      | [] => climb absolute rest (if absolute then [] else [s])
    else climb absolute rest (s :: read)

/-- Whether a path ends in a slash. -/
def isSlashed (p : String) : Bool := p.toList.getLast? = some '/'

/-- The path with empty, `.` and `..` segments resolved. -/
def normalize (p : String) : String :=
  let absolute : Bool := p.toList.head? = some '/'
  let body := ofParts (climb absolute (segments p) [])
  let tail := if isSlashed p && body ≠ "" then "/" else ""
  if absolute then "/" ++ body ++ tail
  else if body = "" then (if isSlashed p then "./" else ".") else body ++ tail

/-- A path below another. -/
def join (base rest : String) : String :=
  if rest = "" then normalize base else normalize (base ++ "/" ++ rest)

/-- A path without one slash at its end. -/
def withoutSlash (p : String) : String :=
  if isSlashed p then String.ofList p.toList.dropLast else p

/-- The normalised path without a trailing slash. -/
def resolve (p : String) : String :=
  let n := normalize p
  if n = "/" then n else withoutSlash n

/-- The directories that hold a path, outermost first. -/
def ancestors (p : String) : List String :=
  (List.range ((parts p).length - 1)).map fun n => ofParts ((parts p).take (n + 1))

end ServiceAccess.Text.Path
