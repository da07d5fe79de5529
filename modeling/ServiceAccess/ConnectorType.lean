import ServiceAccess.Credentials.Basic
import ServiceAccess.Resource.Basic
import ServiceAccess.Routine

/-! # Connector types

A connector type describes one service: its auth methods, its resource types, the readers of their resource
IDs and the provider that does the work. -/

namespace ServiceAccess

/-- A category of targets. -/
structure ResourceType where
  /-- Its identifier. -/
  id : String
  /-- Its name for people. -/
  name : String
  /-- What it is. -/
  description : Option String
  /-- There are several targets, each with a resource ID; without this there is one implicit target. -/
  supportsInstances : Bool
  /-- The targets can be listed. -/
  supportsDiscovery : Bool
  /-- The auth methods that work for it. -/
  methods : List String

/-- The description of a connector type. -/
structure TypeSpec where
  /-- Its identifier. -/
  id : String
  /-- Its name for people. -/
  name : String
  /-- What it connects to. -/
  description : String
  /-- Its auth methods. -/
  methods : List AuthMethod
  /-- Its resource types. -/
  resourceTypes : List ResourceType
  /-- Credentials can be found in the surroundings. -/
  supportsAutoConfiguration : Bool

namespace TypeSpec

/-- The auth method with an identifier. -/
def method? (s : TypeSpec) (id : String) : Option AuthMethod := s.methods.find? fun m => m.id = id

/-- The resource type with an identifier. -/
def resourceType? (s : TypeSpec) (id : String) : Option ResourceType :=
  s.resourceTypes.find? fun r => r.id = id

end TypeSpec

/-- What a provider knows about the connector it works for. -/
structure Context where
  /-- The connector type. -/
  spec : TypeSpec
  /-- The auth method. -/
  method : AuthMethod
  /-- The credentials. -/
  credentials : Credentials
  /-- The resource type. -/
  resourceType : ResourceType
  /-- The target; none for an implicit one. -/
  resource : Option ResourceId

/-- Connector settings found in the surroundings. -/
structure FoundSettings where
  /-- The auth method. -/
  method : String
  /-- The resource type. -/
  resourceType : String
  /-- The target. -/
  resourceId : Option String
  /-- The credentials. -/
  bundle : Bundle

/-- The work of a connector type. -/
structure Provider where
  /-- Build an authenticated client. -/
  connect : Context → Routine Client
  /-- Check the credentials; list the targets when discovery is asked for. -/
  verify : (context : Context) → (discover : Bool) → Routine VerifyOutcome
  /-- Release a client. -/
  disconnect : Option (Client → Routine Unit)
  /-- Write the credentials into the settings of a local tool. -/
  configureLocal : Option (Context → Routine Unit)
  /-- Find credentials in the surroundings. -/
  autoConfigure : Option (AutoConfigureRequest → Routine FoundSettings)

/-- The names of the routines that a provider has, sorted. -/
def Provider.capabilities (p : Provider) : List String :=
  (if p.autoConfigure.isSome then ["autoConfigure"] else [])
    ++ (if p.configureLocal.isSome then ["configureLocalClient"] else [])
    ++ ["connect"] ++ (if p.disconnect.isSome then ["disconnect"] else []) ++ ["verify"]

/-- A connector type. -/
structure ConnectorType where
  /-- Its description. -/
  spec : TypeSpec
  /-- The readers of resource IDs, by resource type. -/
  resolvers : Table String Resolver
  /-- Its work. -/
  provider : Provider

/-- What is found where the reader of the IDs of a resource type is looked up. What is inherited there is no
reader. -/
def ConnectorType.reader? (t : ConnectorType) (resourceType : String) : Option Resolver :=
  (t.resolvers.read resourceType).map fun
    | .own resolver => resolver
    | .inherited => .unusable

end ServiceAccess
