import ServiceAccess.ClientCache.Step
import ServiceAccess.ConnectorType

/-! # Connectors

A `Connector` binds a connector type, an auth method, accepted credentials and maybe a target resource. It
holds the clients that it has made in a cache of its own. `Connector.make?` is the only way to a new
connector; it says everything that a valid connector satisfies. -/

namespace ServiceAccess

/-- The settings of a connector. -/
structure ConnectorSettings where
  /-- The auth method. -/
  method : String
  /-- The credentials. -/
  bundle : Bundle
  /-- The resource type; it may be left out where the auth method determines it. -/
  resourceType : Option String
  /-- The target, as a raw resource ID. -/
  resourceId : Option String
  /-- The name of the connector. -/
  name : Option String

/-- A configured connector. -/
structure Connector where
  /-- Its connector type. -/
  type : ConnectorType
  /-- Its name. -/
  name : Option String
  /-- Its logger. -/
  logger : Logger
  /-- Its auth method. -/
  method : AuthMethod
  /-- Its resource type. -/
  resourceType : ResourceType
  /-- Its target. -/
  resource : Option ResourceId
  /-- Its credentials. -/
  credentials : Credentials
  /-- The fingerprint of its credentials. -/
  fingerprint : String
  /-- Its clients. -/
  cache : ClientCache Context Client Failure

namespace Connector

/-- The resource type that settings mean: the requested one, which must be declared and allow the auth
method, or else the only one that allows it. -/
def selectResourceType (spec : TypeSpec) (method : String) : (requested : Option String) →
    Except Misconfiguration ResourceType
  | some requested =>
    match spec.resourceType? requested with
    | none => .error (.noResourceType spec.id requested (spec.resourceTypes.map ResourceType.id))
    | some r =>
      if r.methods.contains method then .ok r
      else .error (.methodNotAllowed spec.id requested method)
  | none =>
    match spec.resourceTypes.filter fun r => r.methods.contains method with
    | [only] => .ok only
    | _ => .error (.resourceTypeNeeded spec.id method)

/-- The reader of the resource IDs of a resource type. -/
def resolverFor (type : ConnectorType) (resourceType : String) : Except Failure Resolver :=
  if (type.spec.resourceType? resourceType).isNone then
    .error (.configuration (.unknownResourceType type.spec.id resourceType) none)
  else match type.reader? resourceType with
    | none => .error (.configuration (.takesNoIds type.spec.id resourceType) none)
    | some resolver => .ok resolver

/-- Read the raw ID of a target of a resource type. -/
def readTarget (type : ConnectorType) (r : ResourceType) (raw : String) : Except Failure ResourceId :=
  if r.supportsInstances then (resolverFor type r.id).bind fun resolver => resolver.parse raw
  else .error (.configuration (.implicitResource r.id) none)

/-- A connector of a type with given settings, or why there is none. -/
def make? (type : ConnectorType) (settings : ConnectorSettings) (logger : Logger) :
    Except Failure Connector :=
  match type.spec.method? settings.method with
  | none =>
    .error (.configuration
      (.noAuthMethod type.spec.id settings.method (type.spec.methods.map AuthMethod.id)) none)
  | some method =>
    match selectResourceType type.spec method.id settings.resourceType with
    | .error problem => .error (.configuration problem none)
    | .ok resourceType => do
      let credentials ← Credentials.parse method settings.bundle
      let resource ← settings.resourceId.mapM (readTarget type resourceType)
      return {
        type := type
        name := settings.name
        logger := logger
        method := method
        resourceType := resourceType
        resource := resource
        credentials := credentials
        fingerprint := credentials.fingerprint
        cache := .empty type.provider.disconnect.isSome }

/-- The identifier of the connector type. -/
def typeId (c : Connector) : String := c.type.spec.id

/-- The canonical ID of the target. -/
def resourceId (c : Connector) : Option String := c.resource.map ResourceId.canonicalId

/-- What log lines call the connector. -/
def label (c : Connector) : String :=
  match c.name with
  | some name => if name.isEmpty then c.typeId else c.typeId ++ "/" ++ name
  | none => c.typeId

/-- A log line of the connector. -/
def line (c : Connector) (level : Level) (message : String) : LogLine :=
  ⟨level, c.label ++ ": " ++ message⟩

/-- Whether a client built with the current credentials is held. -/
def isConnected (c : Connector) : Bool := c.cache.hasFingerprint c.fingerprint

/-- The state in a word. -/
def state (c : Connector) : String := if c.isConnected then "connected" else "configured"

/-- The canonical spelling of a resource ID of any resource type of the connector type. -/
def canonicalResourceId (c : Connector) (resourceType raw : String) : Except Failure String := do
  let resolver ← resolverFor c.type resourceType
  let id ← resolver.parse raw
  return id.canonicalId

/-- The target of a call: the given one, else the bound one, else the implicit one of a resource type
without instances. -/
def target (c : Connector) : (resourceId : Option String) → Except Failure (Option ResourceId)
  | some raw => (readTarget c.type c.resourceType raw).map some
  | none =>
    match c.resource with
    | some r => .ok (some r)
    | none =>
      if c.resourceType.supportsInstances then .error (.ambiguousResource c.resourceType.id)
      else .ok none

/-- What the provider is told about a call for a target. -/
def context (c : Connector) (resource : Option ResourceId) : Context where
  spec := c.type.spec
  method := c.method
  credentials := c.credentials
  resourceType := c.resourceType
  resource := resource

/-- The descriptive JSON form; secrets are masked. -/
def toJson (c : Connector) : Json :=
  .obj ([("type", .str c.typeId)]
    ++ (c.name.map fun name => ("name", Json.str name)).toList
    ++ [("authMethod", .str c.method.id), ("resourceType", .str c.resourceType.id)]
    ++ (c.resourceId.map fun id => ("resourceId", Json.str id)).toList
    ++ [("config", .obj (c.credentials.masked.entries.map fun e => (e.1, e.2.toJson)))])

end Connector

end ServiceAccess
