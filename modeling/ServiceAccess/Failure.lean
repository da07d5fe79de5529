import ServiceAccess.Credentials.Problem
import ServiceAccess.Json.Basic
import ServiceAccess.Text.Blank

/-! # Failures

Everything an operation can fail with, as causes. The wording stands in `Failure.message`, the stable
names in `Failure.name` and `Failure.code?`. Failures of outside services pass through unchanged as
`Failure.service` and `Failure.thrown`. -/

namespace ServiceAccess

/-- Why settings or credentials are refused. -/
inductive Misconfiguration where
  /-- The connector type declares no such auth method; the declared ones are listed. -/
  | noAuthMethod (type method : String) (supported : List String)
  /-- The connector type declares no such auth method. -/
  | unknownAuthMethod (type method : String)
  /-- The connector type declares no such resource type; the declared ones are listed. -/
  | noResourceType (type resourceType : String) (supported : List String)
  /-- The connector type declares no such resource type. -/
  | unknownResourceType (type resourceType : String)
  /-- The resource type does not allow the auth method. -/
  | methodNotAllowed (type resourceType method : String)
  /-- The auth method does not determine one resource type. -/
  | resourceTypeNeeded (type method : String)
  /-- The bundle does not meet the schema of the auth method. -/
  | invalidBundle (method : String) (problems : List Problem)
  /-- A field holds a value that is no text, number or truth value. -/
  | notScalar (method field : String)
  /-- A field read as a plain text is something else. -/
  | notPlainText (field : String)
  /-- A field read as a secret is something else. -/
  | notSecret (method field : String)
  /-- The resource type has no resolver. -/
  | takesNoIds (type resourceType : String)
  /-- A resource ID was given to a resource type without instances. -/
  | implicitResource (resourceType : String)
  /-- A connector was asked about a resource type that is not its own. -/
  | boundElsewhere (bound requested : String)
  /-- A connector type declares a resource type twice. -/
  | repeatedResourceType (type resourceType : String)
  /-- A resource type allows an auth method that is not declared. -/
  | undeclaredMethod (type resourceType method : String)
  /-- A resource type with instances has no resolver. -/
  | missingResolver (type resourceType : String)
  /-- Harvested credentials fit another auth method than the requested one. -/
  | methodMismatch (source fits requested : String)
  /-- A reason stated by an extension. -/
  | stated (reason : String)

/-- Why settings or credentials are refused, in words. -/
def Misconfiguration.message : Misconfiguration → String
  | .noAuthMethod type method supported =>
    s!"Connector type \"{type}\" has no auth method \"{method}\". Supported: "
      ++ String.intercalate ", " supported ++ "."
  | .unknownAuthMethod type method => s!"Connector type \"{type}\" has no auth method \"{method}\"."
  | .noResourceType type resourceType supported =>
    s!"Connector type \"{type}\" has no resource type \"{resourceType}\". Supported: "
      ++ String.intercalate ", " supported ++ "."
  | .unknownResourceType type resourceType =>
    s!"Connector type \"{type}\" has no resource type \"{resourceType}\"."
  | .methodNotAllowed type resourceType method =>
    s!"Auth method \"{method}\" is not allowed for resource type \"{resourceType}\" of connector type \"{type}\"."
  | .resourceTypeNeeded type method =>
    s!"A resource type must be given for auth method \"{method}\" of connector type \"{type}\"."
  | .invalidBundle method problems =>
    s!"Invalid configuration for auth method \"{method}\":\n"
      ++ String.intercalate "\n" (problems.map fun p => "  - " ++ p.message)
  | .notScalar method field =>
    s!"Configuration field \"{field}\" of auth method \"{method}\" must be a string, number or boolean."
  | .notPlainText field => s!"Configuration field \"{field}\" is not a plain string."
  | .notSecret method field =>
    s!"Configuration field \"{field}\" is not a secret of auth method \"{method}\"."
  | .takesNoIds type resourceType =>
    s!"Resource type \"{resourceType}\" of connector type \"{type}\" does not take resource IDs."
  | .implicitResource resourceType =>
    s!"Resource type \"{resourceType}\" targets a single implicit resource and does not take a resource ID."
  | .boundElsewhere bound requested =>
    s!"Connector is bound to resource type \"{bound}\", not \"{requested}\"."
  | .repeatedResourceType type resourceType =>
    s!"Connector type \"{type}\" declares resource type \"{resourceType}\" twice."
  | .undeclaredMethod type resourceType method =>
    s!"Resource type \"{resourceType}\" of connector type \"{type}\" allows undeclared auth method \"{method}\"."
  | .missingResolver type resourceType =>
    s!"Resource type \"{resourceType}\" of connector type \"{type}\" supports instances but has no resource ID resolver."
  | .methodMismatch source fits requested =>
    s!"AWS credentials from {source} fit auth method \"{fits}\", not \"{requested}\"."
  | .stated reason => reason

/-- What a provider refused. -/
inductive Refusal where
  /-- A container registry refused the login. -/
  | registryLogin (target : String)
  /-- The cloud refused the credentials. -/
  | cloudCredentials (target : String)
  /-- The target does not exist or is out of reach. -/
  | cloudTarget (target : String)
  /-- No credentials were found in the surroundings. -/
  | noCloudCredentials
  /-- A refusal stated by an extension. -/
  | stated (reason : String)
deriving DecidableEq

/-- A refusal in words. -/
def Refusal.message : Refusal → String
  | .registryLogin target => s!"Failed to authenticate to Docker registry \"{target}\""
  | .cloudCredentials target => "AWS rejected the credentials for " ++ target
  | .cloudTarget target => target ++ " does not exist or is not accessible with these credentials"
  | .noCloudCredentials => "No AWS credentials found in the environment or the shared config files"
  | .stated reason => reason

/-- What a connector type cannot do. -/
inductive Lack where
  /-- It cannot find credentials by itself. -/
  | autoConfiguration (type : String)
  /-- It has no local tool to configure. -/
  | localClient (type resourceType : String)
  /-- A lack stated by an extension. -/
  | stated (reason : String)
deriving DecidableEq

/-- What a connector type cannot do, in words. -/
def Lack.message : Lack → String
  | .autoConfiguration type => s!"Auto-configuration is not supported by the \"{type}\" connector type."
  | .localClient type resourceType =>
    s!"Connector type \"{type}\" cannot configure a local client for resource type \"{resourceType}\"."
  | .stated reason => reason

/-- An error object raised by an outside service. -/
structure ServiceFault where
  /-- The name of the error. -/
  name : String
  /-- Its message. -/
  message : String
  /-- Its error code, if it has one. -/
  code : Option Json
  /-- The status code of the reply, if it has one. -/
  statusCode : Option Json
  /-- What the client recorded about the reply, if anything. -/
  metadata : Option Json

/-- A plain error with a message. -/
def ServiceFault.plain (message : String) : ServiceFault := ⟨"Error", message, none, none, none⟩

/-- Everything an operation can fail with. -/
inductive Failure where
  /-- Settings or credentials are malformed or out of scope. -/
  | configuration (problem : Misconfiguration) (cause : Option Failure)
  /-- A resource ID has no accepted shape. -/
  | invalidResourceId (resourceType resourceId : String) (formats : List String)
  /-- One resource is needed and none was given. -/
  | ambiguousResource (resourceType : String)
  /-- A provider refused the credentials. -/
  | authorization (refusal : Refusal) (diagnostic : Option String) (cause : Option Failure)
  /-- A capability is absent. -/
  | notSupported (lack : Lack)
  /-- An outside tool failed, or could not be started when there is no exit code. -/
  | localTool (command : String) (exitCode : Option Int) (stderr : String) (cause : Option Failure)
  /-- A connector type ID is taken. -/
  | duplicateType (id : String)
  /-- A connector type ID is not registered. -/
  | unknownType (id : String)
  /-- A connector name is taken. -/
  | duplicateConnector (name : String)
  /-- No connector has the name. -/
  | unknownConnector (name : String)
  /-- An outside service raised an error object. -/
  | service (fault : ServiceFault)
  /-- An outside service raised a plain value. -/
  | thrown (value : Json)
  /-- Something is used as what it is not. -/
  | wrongType (reason : String)

namespace Failure

/-- The name of a failure. A plain value has none. -/
def name : Failure → String
  | .configuration .. => "ConfigurationError"
  | .invalidResourceId .. => "InvalidResourceIdError"
  | .ambiguousResource .. => "AmbiguousResourceError"
  | .authorization .. => "AuthorizationError"
  | .notSupported .. => "NotSupportedError"
  | .localTool .. => "LocalToolError"
  | .duplicateType .. => "DuplicateTypeError"
  | .unknownType .. => "UnknownTypeError"
  | .duplicateConnector .. => "DuplicateConnectorError"
  | .unknownConnector .. => "UnknownConnectorError"
  | .service fault => fault.name
  | .thrown _ => "(thrown)"
  | .wrongType _ => "TypeError"

/-- The stable code of the library's own failures. -/
def code? : Failure → Option String
  | .configuration .. => some "CONFIGURATION"
  | .invalidResourceId .. => some "INVALID_RESOURCE_ID"
  | .ambiguousResource .. => some "AMBIGUOUS_RESOURCE"
  | .authorization .. => some "AUTHORIZATION"
  | .notSupported .. => some "NOT_SUPPORTED"
  | .localTool .. => some "LOCAL_TOOL"
  | .duplicateType .. => some "DUPLICATE_TYPE"
  | .unknownType .. => some "UNKNOWN_TYPE"
  | .duplicateConnector .. => some "DUPLICATE_CONNECTOR"
  | .unknownConnector .. => some "UNKNOWN_CONNECTOR"
  | _ => none

/-- A failure in words. -/
def message : Failure → String
  | .configuration problem _ => problem.message
  | .invalidResourceId resourceType resourceId formats =>
    s!"Invalid resource ID for resource type \"{resourceType}\": \"{resourceId}\"."
      ++ if formats.isEmpty then ""
        else "\nAccepted formats:\n" ++ String.intercalate "\n" (formats.map fun f => "  - " ++ f)
  | .ambiguousResource resourceType =>
    s!"Resource type \"{resourceType}\" supports multiple instances: a resource ID must be configured on the connector or passed to the call."
  | .authorization refusal diagnostic _ =>
    match diagnostic with
    | some d => if d.isEmpty then refusal.message else refusal.message ++ ": " ++ d
    | none => refusal.message
  | .notSupported lack => lack.message
  | .localTool command exitCode stderr _ =>
    let status := match exitCode with
      | some code => "exited with code " ++ toString code
      | none => "could not be started"
    let detail := Text.trim stderr
    s!"\"{command}\" {status}" ++ if detail.isEmpty then "" else ": " ++ detail
  | .duplicateType id => s!"Connector type \"{id}\" is already registered."
  | .unknownType id => s!"Connector type \"{id}\" is not registered."
  | .duplicateConnector name => s!"A connector named \"{name}\" is already registered."
  | .unknownConnector name => s!"No connector named \"{name}\" is registered."
  | .service fault => fault.message
  | .thrown value => value.display
  | .wrongType reason => reason

/-- Whether a failure is an error object and not a plain value. -/
def isError : Failure → Bool
  | .thrown _ => false
  | _ => true

/-- A failure as one line of a message. -/
def describe (f : Failure) : String := f.message

/-- Whether a failure can be described: error objects can, and plain values that have a text. -/
def hasText : Failure → Bool
  | .thrown value => value.hasText
  | _ => true

end Failure

end ServiceAccess
