import ServiceAccess.Failure
import ServiceAccess.Table
import ServiceAccess.Text.Regex

/-! # Resource IDs

A `Resolver` reads the raw spellings of the resource IDs of one resource type. It tries its shapes in
order; the first that recognises the raw text decides the canonical spelling and the named parts, and a
text that no shape recognises is refused together with the list of accepted formats. -/

namespace ServiceAccess

/-- What a shape finds in a raw resource ID. -/
structure Recognition where
  /-- The canonical spelling. -/
  canonicalId : String
  /-- The named parts; a part may be named and absent. -/
  fields : Table String (Option String)

/-- A resource ID in its raw and its canonical spelling. -/
structure ResourceId where
  /-- The spelling that was read. -/
  raw : String
  /-- The canonical spelling. -/
  canonicalId : String
  /-- The named parts. -/
  fields : Table String (Option String)

/-- The part of a resource ID with a given name, if it has one. -/
def ResourceId.part? (r : ResourceId) (name : String) : Option String := (r.fields.get? name).join

/-- One accepted shape of raw resource IDs. -/
structure Shape where
  /-- Its short name. -/
  name : String
  /-- Its form in words. -/
  format : String
  /-- What it finds in a text; `none` when the text is not of this shape. A shape may also refuse a text
  that it recognises, with a failure of its own. -/
  recognise : List Char → Option (Except Failure Recognition)

/-- A shape that is given by a pattern: what it finds is made up from the match. -/
def Shape.ofPattern (name format : String) (pattern : List Regex.Part) (decompose : Regex.Match → Recognition) :
    Shape where
  name := name
  format := format
  recognise cs := (Regex.exec? pattern cs).map fun found => .ok (decompose found)

/-- A reader of the resource IDs of one resource type. -/
structure Resolver where
  /-- The resource type. -/
  resourceType : String
  /-- The accepted shapes, in the order in which they are tried. -/
  shapes : List Shape

namespace Resolver

/-- The accepted formats, one line each. -/
def formats (r : Resolver) : List String := r.shapes.map fun s => s.name ++ ": " ++ s.format

/-- Read a raw resource ID. -/
def parse (r : Resolver) (raw : String) : Except Failure ResourceId :=
  match r.shapes.findSome? (fun (s : Shape) => s.recognise raw.toList) with
  | some (.ok found) => .ok ⟨raw, found.canonicalId, found.fields⟩
  | some (.error failure) => .error failure
  | none => .error (.invalidResourceId r.resourceType raw r.formats)

/-- What stands where a reader is expected and is none: it reads nothing. -/
def unusable : Resolver :=
  ⟨"undefined", [⟨"", "", fun _ => some (.error (.wrongType "resolver.parse is not a function"))⟩]⟩

@[simp] theorem parse_unusable (raw : String) :
    unusable.parse raw = .error (.wrongType "resolver.parse is not a function") := rfl

end Resolver

end ServiceAccess
