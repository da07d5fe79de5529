import ServiceAccess.Credentials.Schema
import ServiceAccess.Json.Parser
import ServiceAccess.Plugin.FileTree

/-! # Plugin manifests

A directory is a plugin when it holds a manifest, a JSON object with an identifier and, optionally, a name,
a description and a version. -/

namespace ServiceAccess

/-- The manifest of a plugin. -/
structure Manifest where
  /-- The identifier. -/
  id : String
  /-- The name. -/
  name : Option String
  /-- What the plugin is for. -/
  description : Option String
  /-- The version. -/
  version : Option String

namespace Manifest

/-- The name of the manifest file. -/
def fileName : String := "connector.plugin.json"

/-- The rule of a member that may be left out. -/
def optionalText : FieldRule := ⟨none, .text none none none, false, true, none⟩

/-- The members of a manifest. -/
def schema : Schema where
  fields := .ofList [
    ("id", ⟨none, .text (some 1) none none, false, false, none⟩),
    ("name", optionalText), ("description", optionalText), ("version", optionalText)]
  additional := none

/-- What is wrong with a manifest. -/
def problems : Json → List Problem
  | .obj members => schema.problems (.ofList members)
  | _ => [⟨[], .notObject⟩]

/-- The text of a JSON document, as a value. Malformed documents are all refused in the same words. -/
def parseJson (text : String) : Except Failure Json :=
  match Json.parse? text with
  | some v => .ok v
  | none => .error (.service ⟨"SyntaxError", "<JSON syntax error>", none, none, none⟩)

/-- The manifest that a JSON value is, or what is wrong with it. -/
def ofJson (v : Json) : Except Failure Manifest :=
  let text := fun (name : String) => (v.member? name).bind Json.text?
  match problems v, text "id" with
  | [], some id => .ok ⟨id, text "name", text "description", text "version"⟩
  | problems, _ =>
    .error (.service (.plain ("Invalid " ++ fileName ++ ": "
      ++ String.intercalate "; " (problems.map Problem.message))))

/-- The manifest of a directory. -/
def read (tree : FileTree) (dir : String) : Except Failure Manifest := do
  let text ← tree.read (Text.Path.join dir fileName)
  let v ← parseJson text
  ofJson v

end Manifest

end ServiceAccess
