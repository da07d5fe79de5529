import ServiceAccess.ConnectorType
import ServiceAccess.Provider.Cloud.Fault
import ServiceAccess.Resource.Bucket

/-! # The AWS connector type

Authenticates with AWS by long-lived or temporary access keys. Targets are the account itself, reached
through a client of the token service, and storage buckets, reached through a storage client.

The checks go through an `Interface`; `Interface.direct` makes them with short-lived cloud clients. -/

namespace ServiceAccess.Cloud

/-- The connector type. -/
def typeId : String := "aws"

/-- The resource type of the account itself. -/
def accountType : String := "aws-generic"

/-- The auth method of long-lived keys. -/
def secretKey : String := "secret-key"

/-- The auth method of temporary keys. -/
def temporaryKey : String := "sts-token"

/-- The region where none is given. -/
def defaultRegion : String := "us-east-1"

/-- The calls that check credentials. -/
structure Interface where
  /-- Who is the caller? -/
  identity : CloudSession → Routine CallerIdentity
  /-- Which buckets are there? -/
  buckets : CloudSession → Routine (List String)
  /-- Is a bucket there? -/
  bucketExists : CloudSession → (bucket : String) → Routine Unit

namespace Interface

/-- The interface of a name. -/
def named (name : String) : Interface where
  identity session := .query (.callerIdentity name session)
  buckets session := .query (.buckets name session)
  bucketExists session bucket := .query (.bucketExists name session bucket)

/-- The interface that makes every call with a client of its own and closes it afterwards. -/
def direct : Interface where
  identity session := .allocate fun handle =>
    let client := ⟨handle, .tokens, session⟩
    (Routine.query (.sendIdentity client)).thenClose client
  buckets session := .allocate fun handle =>
    let client := ⟨handle, .storage, session⟩
    (Routine.listing client none [] .done).thenClose client
  bucketExists session bucket := .allocate fun handle =>
    let client := ⟨handle, .storage, session⟩
    (Routine.query (.sendHead client bucket)).thenClose client

end Interface

/-- The fields of both auth methods. -/
def keyFields : List (String × FieldRule) := [
  ("region", ⟨some "AWS region", .text none none (some .region), false, false,
    some (.str defaultRegion)⟩),
  ("accessKeyId", .secretText (some "AWS access key ID")),
  ("secretAccessKey", .secretText (some "AWS secret access key")),
  ("endpoint", ⟨some "Custom endpoint URL, e.g. for an S3-compatible store",
    .text none none (some .webAddress), false, true, none⟩)]

/-- The description of the connector type. -/
def spec : TypeSpec where
  id := typeId
  name := "AWS Service Connector"
  description := "Authenticates with AWS and provides pre-authenticated STS and S3 clients."
  methods := [{
    id := secretKey
    name := "AWS secret key"
    description := "Long-lived access key ID and secret access key."
    schema := { fields := .ofList keyFields, additional := some false } }, {
    id := temporaryKey
    name := "AWS STS token"
    description := "Temporary access key ID, secret access key and session token."
    schema := {
      fields := .ofList (keyFields ++ [("sessionToken", .secretText (some "AWS session token"))])
      additional := some false } }]
  resourceTypes := [{
    id := accountType
    name := "Generic AWS resource"
    description := some "The AWS account the credentials belong to."
    supportsInstances := false
    supportsDiscovery := false
    methods := [secretKey, temporaryKey] }, {
    id := Bucket.resourceType
    name := "AWS S3 bucket"
    description := some "An S3 bucket, given as a bucket name, an s3:// URI or an S3 ARN."
    supportsInstances := true
    supportsDiscovery := true
    methods := [secretKey, temporaryKey] }]
  supportsAutoConfiguration := true

/-- What the credentials make of a session. -/
def sessionOf (c : Credentials) : Except Failure CloudSession := do
  let region ← c.string "region"
  let endpoint ← c.string "endpoint"
  let accessKeyId ← c.secret "accessKeyId"
  let secretAccessKey ← c.secret "secretAccessKey"
  let sessionToken ← c.optionalSecret "sessionToken"
  return ⟨region.getD defaultRegion, endpoint, ⟨accessKeyId, secretAccessKey, sessionToken⟩⟩

/-- Make a call about a target, with its failures mapped. -/
def guarded {α : Type} (target : String) (call : Routine α) : Routine α :=
  call.attempt fun
    | .ok a => pure a
    | .error failure => .fail (guardFailure target failure)

/-- Check the credentials against the target: a bucket, or the account. -/
def probe (api : Interface) (ctx : Context) (session : CloudSession) : Routine Unit :=
  match ctx.resource.bind fun r => (r.part? "bucket").map fun bucket => (r.canonicalId, bucket) with
  | some (target, bucket) => guarded target (api.bucketExists session bucket)
  | none => do
    let identity ← guarded ("account in " ++ session.region) (api.identity session)
    Routine.log .info (typeId ++ ": authenticated as " ++ identity.arn.getD "unknown principal")

/-- Build a client: for a bucket one of the storage service, else one of the token service. -/
def connect (api : Interface) (ctx : Context) : Routine Client := do
  let session ← Routine.ofExcept (sessionOf ctx.credentials)
  probe api ctx session
  let kind := if ctx.resourceType.id = Bucket.resourceType then .storage else .tokens
  .allocate fun handle => pure (.cloud ⟨handle, kind, session⟩)

/-- What a verification finds out when a call fails: nothing when the cloud was out of reach. -/
def inconclusive (failure : Failure) : Routine VerifyOutcome :=
  if classify failure = .unreachable then
    pure (.unreachable ("AWS endpoint unreachable: " ++ failure.describe))
  else .fail failure

/-- Check the credentials, listing the buckets when discovery is asked for. -/
def verify (api : Interface) (ctx : Context) (discover : Bool) : Routine VerifyOutcome := do
  let session ← Routine.ofExcept (sessionOf ctx.credentials)
  if discover then
    (guarded "bucket listing" (api.buckets session)).attempt fun
      | .ok buckets => pure (.verified buckets)
      | .error failure => inconclusive failure
  else
    (probe api ctx session).attempt fun
      | .ok _ => pure (.verified (ctx.resource.map ResourceId.canonicalId).toList)
      | .error failure => inconclusive failure

/-- Release a client. -/
def disconnect : Client → Routine Unit
  | .cloud client => .close client (.done (.ok ()))
  | _ => pure ()

/-- Access keys and where they come from. -/
structure Harvest where
  /-- The keys. -/
  keys : AccessKeys
  /-- Where they come from. -/
  source : String

/-- The access keys of the environment, when it has both. -/
def environmentKeys? (request : AutoConfigureRequest) : Option AccessKeys := do
  let id ← request.lookup? "AWS_ACCESS_KEY_ID"
  let secret ← request.lookup? "AWS_SECRET_ACCESS_KEY"
  return ⟨id, secret, request.lookup? "AWS_SESSION_TOKEN"⟩

/-- Find access keys: in the environment, else in the shared profile files. -/
def harvest (request : AutoConfigureRequest) : Routine Harvest :=
  match environmentKeys? request with
  | some keys => pure ⟨keys, "environment"⟩
  | none =>
    let profile := (request.env.get? "AWS_PROFILE").getD "default"
    let query := ⟨profile, request.env.get? "AWS_SHARED_CREDENTIALS_FILE",
      request.env.get? "AWS_CONFIG_FILE"⟩
    (Routine.query (.profile query)).attempt fun
      | .ok keys => pure ⟨keys, "profile \"" ++ profile ++ "\""⟩
      | .error failure =>
        .fail (.authorization .noCloudCredentials (some failure.describe) (some failure))

/-- The region that a request or its environment asks for. -/
def regionFor (request : AutoConfigureRequest) : String :=
  (request.region <|> request.env.get? "AWS_REGION" <|> request.env.get? "AWS_DEFAULT_REGION").getD
    defaultRegion

/-- The settings that access keys make. -/
def settingsFor (request : AutoConfigureRequest) (found : Harvest) (method : String)
    (token : Option String) : FoundSettings where
  method := method
  resourceType := request.resourceType.getD
    (if request.resourceId.isSome then Bucket.resourceType else accountType)
  resourceId := request.resourceId
  bundle :=
    let entry := fun (name value : String) => (name, Input.value (.str value))
    .ofList ([entry "region" (regionFor request), entry "accessKeyId" found.keys.accessKeyId,
        entry "secretAccessKey" found.keys.secretAccessKey]
      ++ (token.map (entry "sessionToken")).toList
      ++ ((request.lookup? "AWS_ENDPOINT_URL").map (entry "endpoint")).toList)

/-- Find settings in the surroundings. The keys decide the auth method: temporary keys have a session
token. -/
def autoConfigure (request : AutoConfigureRequest) : Routine FoundSettings := do
  let found ← harvest request
  let token := found.keys.sessionToken.filter fun s => !s.isEmpty
  let method := if token.isSome then temporaryKey else secretKey
  match request.method.filter fun m => m ≠ method with
  | some requested =>
    .fail (.configuration (.methodMismatch found.source method requested) none)
  | none =>
    Routine.log .info (typeId ++ ": using credentials from " ++ found.source)
    return settingsFor request found method token

/-- The connector type, for an interface to the cloud. -/
def connectorType (api : Interface) : ConnectorType where
  spec := spec
  resolvers := .ofList [(Bucket.resourceType, Bucket.resolver)]
  provider := {
    connect := connect api
    verify := verify api
    disconnect := some disconnect
    configureLocal := none
    autoConfigure := some autoConfigure }

end ServiceAccess.Cloud
