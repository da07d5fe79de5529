import ServiceAccess.Service
import ServiceAccess.Text.Blank

/-! # Shared profile files

How the shared files of a rehearsal are read: profiles of access keys. A file holds sections of
`name = value` lines; a comment starts with `#` or `;` at the start of a line or after a blank. In the
credentials file a section is named for its profile; in the settings file it is `[default]` or
`[profile name]`. Where both files set a value, the credentials file wins. -/

namespace ServiceAccess.Rehearsal.Profile

/-- The values of named sections. -/
abbrev Sections := Table String (Table String String)

/-- The part of a line before its comment. -/
def beforeComment : List Char → List Char
  | [] => []
  | c :: cs =>
    match cs with
    | d :: _ =>
      if Text.isBlank c && (d == '#' || d == ';') then [] else c :: beforeComment cs
    | [] => [c]

/-- A line without comment and blanks at its ends. -/
def significant (line : String) : String :=
  if line.startsWith "#" || line.startsWith ";" then ""
  else Text.trim (String.ofList (beforeComment line.toList))

/-- The name of a section whose heading has a kind and a name, blank-separated and maybe quoted. -/
def headingName (heading : String) : String :=
  let cs := heading.toList
  let kind := cs.takeWhile fun c => c.isAlphanum || c == '_' || c == '-'
  match cs.drop kind.length with
  | blank :: rest =>
    let name := match rest with
      | q :: inner =>
        if (q == '"' || q == '\'') && inner.getLast? = some q then inner.dropLast else rest
      | [] => rest
    let plain := !name.isEmpty && name.all fun c => c.isAlphanum || "_-@+.%:/".toList.contains c
    if !kind.isEmpty && Text.isBlank blank && plain then
      String.ofList kind ++ "." ++ String.ofList name
    else heading
  | [] => heading

/-- What has been read of a file. -/
structure Reading where
  /-- The sections so far. -/
  sections : Sections
  /-- The section that the next value belongs to. -/
  current? : Option String
  /-- The name in front of the names of indented lines. -/
  group? : Option String

/-- The name and the value around the first equals sign of a line, if a name stands before it. -/
def assignment? (line : String) : Option (String × String) :=
  let cs := line.toList
  let name := cs.takeWhile (· != '=')
  match cs.drop name.length with
  | _ :: value =>
    if name.isEmpty then none
    else some (Text.trim (String.ofList name), Text.trim (String.ofList value))
  | [] => none

/-- Read one line. -/
def Reading.line (r : Reading) (line : String) : Reading :=
  let text := significant line
  if text.startsWith "[" && text.endsWith "]" then
    let heading := ((text.drop 1).dropEnd 1).toString
    { r with current? := some (headingName heading), group? := none }
  else
    match r.current?, assignment? text with
    | some sec, some (name, value) =>
      if value.isEmpty then { r with group? := some name }
      else
        let indented := ((line.toList.head?).map Text.isBlank).getD false
        let group? := if indented then r.group? else none
        let key := match group? with
          | some g => g ++ "." ++ name
          | none => name
        let values := (r.sections.get? sec).getD ∅
        { r with sections := r.sections.insert sec (values.insert key value), group? := group? }
    | _, _ => r

/-- Read a file. -/
def sectionsOf (file : String) : Sections :=
  let lines := (file.splitOn "\n").map fun l => if l.endsWith "\r" then (l.dropEnd 1).toString else l
  (lines.foldl Reading.line ⟨∅, none, none⟩).sections

/-- A value of a profile: the credentials file is asked before the settings file. -/
def value? (credentials config : Sections) (profile name : String) : Option String :=
  let inConfig := if profile = "default"
    then (config.get? "profile.default") <|> (config.get? "default")
    else config.get? ("profile." ++ profile)
  ((credentials.get? profile).bind fun s => s.get? name) <|> (inConfig.bind fun s => s.get? name)

/-- The failure of a profile without access keys. -/
def unresolved (profile : String) : Failure :=
  .service ⟨"CredentialsProviderError",
    "Could not resolve credentials using profile: [" ++ profile
      ++ "] in configuration/credentials file(s).", none, none, none⟩

/-- The access keys of a profile. The profile without a name is the default one. -/
def keys (credentialsFile configFile profile : String) : Except Failure AccessKeys :=
  let profile := if profile.isEmpty then "default" else profile
  let credentials := sectionsOf credentialsFile
  let config := sectionsOf configFile
  match value? credentials config profile "aws_access_key_id",
    value? credentials config profile "aws_secret_access_key" with
  | some id, some secret => .ok ⟨id, secret, value? credentials config profile "aws_session_token"⟩
  | _, _ => .error (unresolved profile)

end ServiceAccess.Rehearsal.Profile
