import ServiceAccess.Failure
import ServiceAccess.Table

/-! # Outside services

What connectors say to the services outside: container daemons, the cloud, command-line tools, shared
profile files and the services behind extensions. A `Query` is one question; `Query.Answer` is the type
of its answers. -/

namespace ServiceAccess

/-- The number of a client handle. -/
abbrev Handle := Nat

/-- Credentials for a container registry. -/
structure RegistryLogin where
  /-- The user. -/
  username : String
  /-- The password or token. -/
  password : String
  /-- The address of the registry. -/
  serverAddress : String
deriving DecidableEq

/-- Access keys of the cloud. -/
structure AccessKeys where
  /-- The public part. -/
  accessKeyId : String
  /-- The secret part. -/
  secretAccessKey : String
  /-- The session token of temporary keys. -/
  sessionToken : Option String
deriving DecidableEq

/-- What a cloud client is built from. -/
structure CloudSession where
  /-- The region. -/
  region : String
  /-- The address of a compatible service, if it is not the cloud itself. -/
  endpoint : Option String
  /-- The access keys. -/
  keys : AccessKeys
deriving DecidableEq

/-- The kinds of cloud client. -/
inductive CloudClientKind where
  /-- A client of the storage service. -/
  | storage
  /-- A client of the token service. -/
  | tokens
deriving DecidableEq

/-- A cloud client. -/
structure CloudClient where
  /-- Its handle. -/
  handle : Handle
  /-- The service it talks to. -/
  kind : CloudClientKind
  /-- What it was built from. -/
  session : CloudSession
deriving DecidableEq

/-- Whether a cloud client puts bucket names into paths: storage clients with an endpoint of their own do,
and for the token service there is no choice. -/
def CloudClient.pathStyle (c : CloudClient) : Option Bool :=
  match c.kind with
  | .storage => some c.session.endpoint.isSome
  | .tokens => none

/-- Who the cloud takes a caller for. -/
structure CallerIdentity where
  /-- The resource name of the caller, if the cloud gives it. -/
  arn : Option String
deriving DecidableEq

/-- One page of a bucket listing. -/
structure BucketPage where
  /-- The listed buckets; some may be nameless. -/
  names : List (Option String)
  /-- The token of the next page. -/
  next : Option String
deriving DecidableEq

/-- The named buckets of a page. -/
def BucketPage.named (p : BucketPage) : List String :=
  p.names.filterMap fun n => n.filter fun s => !s.isEmpty

/-- A run of a command-line tool. -/
structure ToolRun where
  /-- The tool. -/
  command : String
  /-- Its arguments. -/
  args : List String
  /-- What it reads from its standard input. -/
  input : String
deriving DecidableEq

/-- How a run of a tool ended. -/
structure ToolResult where
  /-- The exit code. -/
  exitCode : Int
  /-- What the tool wrote. -/
  stdout : String
  /-- What the tool wrote as diagnostics. -/
  stderr : String
deriving DecidableEq

/-- A profile in shared credential files. -/
structure ProfileQuery where
  /-- The name of the profile. -/
  profile : String
  /-- The credentials file, if it is not the usual one. -/
  credentialsFile : Option String
  /-- The settings file, if it is not the usual one. -/
  configFile : Option String
deriving DecidableEq

/-- A client handle of an extension. -/
structure ExtensionClient where
  /-- The number of the handshake that made it. -/
  serial : Nat
  /-- The canonical ID of its resource, if it has one. -/
  resource : Option String
  /-- The credential it was made with. -/
  credential : Option String
deriving DecidableEq

/-- A client handle. -/
inductive Client where
  /-- A container engine that is logged in. -/
  | engine (handle : Handle) (registry : Option String) (auth : RegistryLogin)
  /-- A cloud client. -/
  | cloud (client : CloudClient)
  /-- A client of an extension. -/
  | extension (client : ExtensionClient)
deriving DecidableEq

/-- What a verification found out. -/
inductive VerifyOutcome where
  /-- The credentials work, for the listed raw resource IDs. -/
  | verified (resourceIds : List String)
  /-- Nothing was found out, because the service is out of reach. -/
  | unreachable (reason : String)
deriving DecidableEq

/-- What is wanted of auto-configuration. -/
structure AutoConfigureRequest where
  /-- The auth method that is wanted. -/
  method : Option String
  /-- The resource type that is wanted. -/
  resourceType : Option String
  /-- The resource that is wanted. -/
  resourceId : Option String
  /-- The region that is wanted. -/
  region : Option String
  /-- The environment to search. -/
  env : Table String String

/-- A variable of the environment, when it is set and not empty. -/
def AutoConfigureRequest.lookup? (r : AutoConfigureRequest) (name : String) : Option String :=
  (r.env.get? name).filter fun s => !s.isEmpty

/-- What an extension asks of its service. -/
inductive ExtensionCall where
  /-- A handshake. -/
  | connect (method resourceType : String) (resource credential : Option String)
  /-- A check of the credentials. -/
  | verify (method resourceType : String) (resource : Option String) (discover : Bool)
  /-- The end of a session. -/
  | release (serial : Nat)
  /-- The set-up of a local tool. -/
  | configureLocal (resource : Option String)
  /-- A search for credentials. -/
  | autoConfigure (request : AutoConfigureRequest)

/-- The type of the answers to an extension's call. -/
def ExtensionCall.Answer : ExtensionCall → Type
  | .connect .. => ExtensionClient
  | .verify .. => VerifyOutcome
  | .release _ => Unit
  | .configureLocal _ => Unit
  | .autoConfigure _ => Unit

/-- A question to an outside service. Daemons, interfaces and extension services are named, because
connector types may talk to different ones. -/
inductive Query where
  /-- Is a container daemon alive? -/
  | ping (daemon : String)
  /-- Does a registry accept a login through a container daemon? -/
  | login (daemon : String) (auth : RegistryLogin)
  /-- Run a tool on the machine of a container daemon. -/
  | runTool (daemon : String) (run : ToolRun)
  /-- Who is the caller, asked through a cloud interface? -/
  | callerIdentity (interface : String) (session : CloudSession)
  /-- Which buckets are there, asked through a cloud interface? -/
  | buckets (interface : String) (session : CloudSession)
  /-- Is a bucket there, asked through a cloud interface? -/
  | bucketExists (interface : String) (session : CloudSession) (bucket : String)
  /-- Who is the caller, asked by a cloud client? -/
  | sendIdentity (client : CloudClient)
  /-- Is a bucket there, asked by a cloud client? -/
  | sendHead (client : CloudClient) (bucket : String)
  /-- Which access keys does a shared profile hold? -/
  | profile (query : ProfileQuery)
  /-- A call of an extension's service. -/
  | extension (service : String) (call : ExtensionCall)

/-- The type of the answers to a question. -/
def Query.Answer : Query → Type
  | .ping _ => Unit
  | .login .. => Unit
  | .runTool .. => ToolResult
  | .callerIdentity .. => CallerIdentity
  | .buckets .. => List String
  | .bucketExists .. => Unit
  | .sendIdentity _ => CallerIdentity
  | .sendHead .. => Unit
  | .profile _ => AccessKeys
  | .extension _ call => call.Answer

end ServiceAccess
