import ServiceAccess.Credentials.Pattern
import ServiceAccess.Resource.Basic
import ServiceAccess.Text.Blank

/-! # Container repositories

A repository is given by a URI, a scheme that may be left out, a host and a path, whose canonical
spelling drops the scheme, or by a bare name of letters, digits and dashes, which lives on Docker Hub. -/

namespace ServiceAccess.Repository

/-- The resource type of container repositories. -/
def resourceType : String := "docker-registry"

/-- Letters, digits and dashes. -/
def isNameChar (c : Char) : Bool :=
  Text.isLower c || ('A' ≤ c && c ≤ 'Z') || Text.isDigit c || c == '-'

/-- A label: letters, digits and dashes, one at least. -/
def label : Regex := .plus (.one isNameChar)

/-- Labels, separated by dots. -/
def host : Regex := .seq label (.star (.seq (.word ".") label))

/-- A port: a colon and digits, one at least. -/
def port : Regex := .seq (.word ":") (.plus (.one Text.isDigit))

/-- A path: characters that do not end a line, one at least. -/
def path : Regex := .plus (.one fun c => !Text.isLineEnd c)

/-- The pattern of repository URIs. Its groups are host and port, and the path. -/
def uriPattern : List Regex.Part :=
  [.skip (.opt Pattern.webLead), .group (.seq host (.opt port)), .skip (.word "/"), .group path]

/-- The pattern of bare names. -/
def namePattern : List Regex.Part := [.skip label]

/-- What a repository URI names. -/
def ofUri (m : Regex.Match) : Recognition :=
  let registry := m.group 0
  ⟨registry ++ "/" ++ m.group 1, .ofList [("registry", some registry)]⟩

/-- What a bare name names. -/
def ofName (m : Regex.Match) : Recognition := ⟨m.whole, .ofList [("registry", none)]⟩

/-- The reader of repositories. -/
def resolver : Resolver where
  resourceType := resourceType
  shapes := [
    .ofPattern "repository URI" "[https://]host[:port]/<repository-name>" uriPattern ofUri,
    .ofPattern "Docker Hub repository name" "<repository-name>" namePattern ofName]

end ServiceAccess.Repository
