import ServiceAccess.ConnectorType
import ServiceAccess.Resource.Repository
import ServiceAccess.Text.Search

/-! # The Docker connector type

Authenticates with a container registry. A client is a container engine logged in to the registry of the
target repository; the local tool is the `docker` command. -/

namespace ServiceAccess.Docker

/-- The connector type. -/
def typeId : String := "docker"

/-- The registry of repositories without a host. -/
def hubAddress : String := "https://index.docker.io/v1/"

/-- What a registry says when it refuses credentials. -/
def refusals : List String :=
  ["unauthorized", "denied: requested access", "incorrect username or password",
    "authentication required"]

/-- Whether a text says that credentials were refused. -/
def reportsRefusal (s : String) : Bool := refusals.any fun r => Text.mentions r s

/-- Whether a status code is 401 or 403. -/
def isRefusalStatus : Option Json → Bool
  | some (.num n) => n == Number.ofNat 401 || n == Number.ofNat 403
  | _ => false

/-- Whether a failure of the engine means that the registry refused the credentials. A plain value never
does. -/
def isRefusal : Failure → Bool
  | .thrown _ => false
  | .service fault => isRefusalStatus fault.statusCode || reportsRefusal fault.message
  | failure => reportsRefusal failure.message

/-- The description of the connector type. -/
def spec : TypeSpec where
  id := typeId
  name := "Docker Service Connector"
  description := "Authenticates with a Docker or OCI container registry and provides pre-authenticated Docker engine clients."
  methods := [{
    id := "password"
    name := "Docker username and password/token"
    description := "Use a username and password or access token to authenticate with a container registry server."
    schema := {
      fields := .ofList [
        ("username", .secretText (some "Registry username")),
        ("password", .secretText (some "Registry password or access token"))]
      additional := some false } }]
  resourceTypes := [{
    id := Repository.resourceType
    name := "Docker/OCI container registry"
    description := some "A Docker/OCI repository, given as a repository URI ([https://]host[:port]/<repository-name>) or a Docker Hub repository name."
    supportsInstances := true
    supportsDiscovery := false
    methods := ["password"] }]
  supportsAutoConfiguration := false

/-- The registry host of the target, none for the hub. -/
def registryOf (ctx : Context) : Option String := ctx.resource.bind fun r => r.part? "registry"

/-- What the target is called in messages. -/
def targetName (ctx : Context) : String :=
  match ctx.resource with
  | some r => r.canonicalId
  | none => hubAddress

/-- The login that the credentials make for the registry of the target. -/
def loginFor (ctx : Context) : Except Failure RegistryLogin := do
  let username ← ctx.credentials.secret "username"
  let password ← ctx.credentials.secret "password"
  return ⟨username, password, (registryOf ctx).getD hubAddress⟩

/-- The failure of a login: a refusal becomes an authorization failure. -/
def loginFailure (ctx : Context) (failure : Failure) : Failure :=
  if isRefusal failure then
    .authorization (.registryLogin (targetName ctx)) (some failure.describe) (some failure)
  else failure

/-- Log in to the registry of the target. -/
def login (daemon : String) (ctx : Context) : Routine RegistryLogin := do
  let auth ← Routine.ofExcept (loginFor ctx)
  (Routine.query (.login daemon auth)).attempt fun
    | .ok _ => pure auth
    | .error failure => .fail (loginFailure ctx failure)

/-- Build a logged-in engine. -/
def connect (daemon : String) (ctx : Context) : Routine Client :=
  .allocate fun engine => do
    let auth ← login daemon ctx
    Routine.log .info (typeId ++ ": logged in to " ++ auth.serverAddress)
    return .engine engine (registryOf ctx) auth

/-- Check the credentials by a login. Without a daemon nothing can be found out. -/
def verify (daemon : String) (ctx : Context) (_discover : Bool) : Routine VerifyOutcome :=
  (Routine.query (.ping daemon)).attempt fun
    | .error failure => pure (.unreachable ("Docker daemon unavailable: " ++ failure.describe))
    | .ok _ =>
      match ctx.resource with
      | none => pure (.verified [])
      | some resource => do
        let _ ← login daemon ctx
        return .verified [resource.canonicalId]

/-- What a run of the login command means: no failure for the exit code zero. -/
def toolFailure? (ctx : Context) (command : String) (result : ToolResult) : Option Failure :=
  if result.exitCode = 0 then none
  else if reportsRefusal result.stderr then
    some (.authorization (.registryLogin (targetName ctx)) (some (Text.trim result.stderr)) none)
  else some (.localTool command (some result.exitCode) result.stderr none)

/-- The run of the login command. -/
def loginRun (binary : String) (ctx : Context) : Except Failure ToolRun := do
  let username ← ctx.credentials.secret "username"
  let registry := ((registryOf ctx).filter fun r => !r.isEmpty).toList
  let password ← ctx.credentials.secret "password"
  return ⟨binary, ["login", "-u", username, "--password-stdin"] ++ registry, password⟩

/-- Log the local command in. -/
def configureLocal (daemon binary : String) (ctx : Context) : Routine Unit := do
  let command := binary ++ " login"
  let run ← Routine.ofExcept (loginRun binary ctx)
  (Routine.query (.runTool daemon run)).attempt fun
    | .error failure => .fail (.localTool command none failure.describe (some failure))
    | .ok result =>
      match toolFailure? ctx command result with
      | some failure => .fail failure
      | none => Routine.log .info
          (typeId ++ ": local Docker CLI logged in to " ++ (registryOf ctx).getD "Docker Hub")

/-- The connector type, for a container daemon and a name of the command. -/
def connectorType (daemon binary : String) : ConnectorType where
  spec := spec
  resolvers := .ofList [(Repository.resourceType, Repository.resolver)]
  provider := {
    connect := connect daemon
    verify := verify daemon
    disconnect := none
    configureLocal := some (configureLocal daemon binary)
    autoConfigure := none }

end ServiceAccess.Docker
