import ServiceAccess.Connector.Basic

/-! # Verification, local tools and auto-configuration

The calls of a connector that leave its client cache alone: checking credentials, discovering the
accessible resources, setting up a local tool, and finding settings in the surroundings. -/

namespace ServiceAccess.Connector

/-- Write a log line of the connector. -/
def log (c : Connector) (level : Level) (message : String) : Routine Unit :=
  let line := c.line level message
  Routine.log line.level line.message

/-- The target of a verification: the given one, else the bound one. -/
def verificationTarget (c : Connector) (resourceType resourceId : Option String) :
    Except Failure (Option ResourceId) :=
  match resourceType.filter fun t => t ≠ c.resourceType.id with
  | some other => .error (.configuration (.boundElsewhere c.resourceType.id other) none)
  | none =>
    match resourceId with
    | some raw => (readTarget c.type c.resourceType raw).map some
    | none => .ok c.resource

/-- The canonical IDs of listed raw IDs, each once, in order of first appearance, behind those found so
far. An ID of no accepted shape is skipped with a warning; any other failure ends the routine. -/
def canonicalIds (c : Connector) (resolver : Resolver) : List String → (found : List String) →
    Routine (List String)
  | [], found => pure found
  | raw :: rest, found =>
    match resolver.parse raw with
    | .ok id =>
      c.canonicalIds resolver rest
        (if found.contains id.canonicalId then found else found ++ [id.canonicalId])
    | .error (.invalidResourceId ..) => do
      c.log .warn ("skipping discovered resource \"" ++ raw ++ "\": not a valid "
        ++ resolver.resourceType ++ " ID")
      c.canonicalIds resolver rest found
    | .error failure => .fail failure

/-- The canonical IDs of what was discovered. -/
def discovered (c : Connector) (listed : List String) : Routine (List String) := do
  let resolver ← Routine.ofExcept (resolverFor c.type c.resourceType.id)
  let ids ← c.canonicalIds resolver listed []
  c.log .info ("discovered " ++ toString ids.length ++ " accessible resource(s)")
  return ids

/-- Check that the credentials work: for a target, for every target of a discoverable resource type, or
as such. An unreachable service leaves the question open. -/
def verify (c : Connector) (resourceType resourceId : Option String) : Routine (List String) := do
  let resource ← Routine.ofExcept (c.verificationTarget resourceType resourceId)
  let discover :=
    resource.isNone && c.resourceType.supportsInstances && c.resourceType.supportsDiscovery
  let outcome ← c.type.provider.verify (c.context resource) discover
  match outcome, resource with
  | .unreachable reason, _ => do
    c.log .warn ("verification inconclusive, provider unreachable: " ++ reason)
    return []
  | .verified _, some r => do
    c.log .info ("verified access to " ++ r.canonicalId)
    return [r.canonicalId]
  | .verified listed, none =>
    if discover then c.discovered listed
    else do
      c.log .info ("credentials verified for resource type " ++ c.resourceType.id)
      return []

/-- Write the credentials into the settings of a local tool. -/
def configureLocal (c : Connector) (resourceId : Option String) : Routine Unit :=
  match c.type.provider.configureLocal with
  | none => .fail (.notSupported (.localClient c.typeId c.resourceType.id))
  | some configure => do
    let resource ← Routine.ofExcept (c.target resourceId)
    configure (c.context resource)
    c.log .info ("configured local client" ++ match resource with
      | some r => " for " ++ r.canonicalId
      | none => "")

/-- The routine that finds settings, if the connector type has one and the request names only what it
declares. -/
def finder (type : ConnectorType) (request : AutoConfigureRequest) :
    Except Failure (AutoConfigureRequest → Routine FoundSettings) :=
  match type.provider.autoConfigure with
  | none => .error (.notSupported (.autoConfiguration type.spec.id))
  | some find =>
    if !type.spec.supportsAutoConfiguration then
      .error (.notSupported (.autoConfiguration type.spec.id))
    else match request.method.filter fun m => (type.spec.method? m).isNone with
      | some method => .error (.configuration (.unknownAuthMethod type.spec.id method) none)
      | none =>
        match request.resourceType.filter fun t => (type.spec.resourceType? t).isNone with
        | some other => .error (.configuration (.unknownResourceType type.spec.id other) none)
        | none => .ok find

/-- A connector with settings found in the surroundings. -/
def autoConfigure (type : ConnectorType) (request : AutoConfigureRequest) (logger : Logger) :
    Routine Connector := do
  let find ← Routine.ofExcept (finder type request)
  let found ← find request
  Routine.log .info (type.spec.id ++ ": auto-configured auth method \"" ++ found.method
    ++ "\" for resource type \"" ++ found.resourceType ++ "\"")
  Routine.ofExcept (make? type
    ⟨found.method, found.bundle, some found.resourceType, found.resourceId, none⟩ logger)

end ServiceAccess.Connector
