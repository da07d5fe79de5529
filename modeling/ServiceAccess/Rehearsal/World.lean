import ServiceAccess.Connector.Record
import ServiceAccess.Connector.Session
import ServiceAccess.Connector.Verification
import ServiceAccess.Rehearsal.Basic
import ServiceAccess.Rehearsal.Script

/-! # The world of a session

A session rehearses connectors: connector types with scripted services, registries, live connectors, and the
routines under way as threads. A thread runs until it asks a question; it goes on when its turn comes, in
the order in which questions were asked, and no earlier than the gate of its service is open. -/

namespace ServiceAccess.Rehearsal

/-- A reply of the cloud: who the caller is, and a page of buckets. A request reads the part it is about. -/
structure CloudReply where
  /-- The caller. -/
  identity : CallerIdentity
  /-- The page. -/
  page : BucketPage

namespace Session

/-- A request that a cloud client sends. -/
inductive CloudRequest where
  /-- Who is the caller? -/
  | identity
  /-- The page of a bucket listing that a token names. -/
  | buckets (token : Option String)
  /-- Is a bucket there? -/
  | bucket (name : String)

/-- What happens in a session. -/
inductive Event where
  /-- A logger does something with a line. -/
  | emitted (e : Emission)
  /-- A container daemon is asked whether it is alive. -/
  | ping
  /-- A registry is asked for a login. -/
  | login (auth : RegistryLogin)
  /-- A tool runs. -/
  | ran (run : ToolRun)
  /-- The cloud is asked who the caller is. -/
  | callerIdentity (session : CloudSession)
  /-- The cloud is asked for its buckets. -/
  | buckets (session : CloudSession)
  /-- The cloud is asked for a bucket. -/
  | bucket (session : CloudSession) (name : String)
  /-- A cloud client, known by a label, sends a request. -/
  | send (label : String) (client : CloudClient) (request : CloudRequest)
  /-- A cloud client is closed. -/
  | destroy (label : String)
  /-- A handshake with an extension's service. -/
  | connect (serial : Nat) (method resourceType : String) (resource credential : Option String)
  /-- A check by an extension's service. -/
  | verify (method resourceType : String) (resource : Option String) (discover : Bool)
  /-- The end of an extension's session. -/
  | release (serial : Nat)
  /-- The set-up of a local tool by an extension's service. -/
  | configureLocal (resource : Option String)
  /-- A search for credentials by an extension. -/
  | autoConfigure (request : AutoConfigureRequest)

/-- The registries of a session. -/
inductive RegistryName where
  /-- The usual one. -/
  | main
  /-- A second one. -/
  | other
  /-- The one of the whole process. -/
  | process
deriving DecidableEq

/-- The result of a step. -/
inductive Answer where
  /-- No result. -/
  | nothing
  /-- A truth value. -/
  | flag (b : Bool)
  /-- A text, if there is one. -/
  | text (s : Option String)
  /-- Texts. -/
  | texts (l : List String)
  /-- A field value, if there is one. -/
  | value (v : Option FieldValue)
  /-- The description of a connector type. -/
  | spec (s : TypeSpec)
  /-- The connector types of a registry. -/
  | types (l : List ConnectorType)
  /-- A connector, described. -/
  | connector (c : Connector)
  /-- The JSON form of a connector. -/
  | json (c : Connector)
  /-- A client. -/
  | client (c : Client)
  /-- A stored connector. -/
  | record (r : ConnectorRecord)

/-- How a thread ends. -/
inductive Completion where
  /-- A handshake of a connector has ended. -/
  | created (connector generation : Nat) (result : Except Failure Client)
  /-- A release of a connector has ended. -/
  | released (connector release : Nat) (result : Except Failure Unit)
  /-- A step has ended. -/
  | finished (task : Nat) (result : Except Failure Answer)
  /-- A step has ended with a new connector under a name. -/
  | founded (task : Nat) (name : String) (result : Except Failure Connector)

/-- A routine under way. -/
structure Thread where
  /-- The logger of its lines. -/
  logger : Logger
  /-- What is left of it. -/
  program : Routine Completion
  /-- The number of the handshake it is in. -/
  serial : Nat

/-- Who waits for the answer to a connector's call. -/
inductive Wait where
  /-- A step that wants a client. -/
  | client (task : Nat)
  /-- A step that waits for the end of the call. -/
  | ending (task : Nat)
  /-- A removal from a registry, on behalf of a step. -/
  | removal (registry : RegistryName) (removal task : Nat)

/-- What happens next. -/
inductive Turn where
  /-- A thread gets its answer. -/
  | thread (number : Nat)
  /-- A connector runs a continuation. -/
  | connector (number : Nat)

/-- The world of a session. -/
structure World where
  /-- The logger of connectors. -/
  logger : Logger
  /-- The connector types, by the name of their services. -/
  types : Table String ConnectorType
  /-- The scripts of the services. -/
  scripts : Table String Script
  /-- The services whose tools really run. -/
  realTools : List String
  /-- The files. -/
  files : Table String String
  /-- How many handshakes the services have had. -/
  serials : Table String Nat
  /-- The usual registry. -/
  main : Registry Nat
  /-- The second registry. -/
  other : Registry Nat
  /-- The registry of the process. -/
  process : Registry Nat
  /-- The connectors, by number. -/
  connectors : Table Nat Connector
  /-- The names that the connectors were made under. -/
  titles : Table Nat String
  /-- The connectors that names mean now. -/
  names : Table String Nat
  /-- The kept records. -/
  records : Table String ConnectorRecord
  /-- The kept lists of connector types. -/
  snapshots : Table String (List String)
  /-- The open gates. -/
  openGates : List String
  /-- The threads that wait for gates, in order. -/
  blocked : List (String × Nat)
  /-- What happens next, in order. -/
  queue : List Turn
  /-- The threads. -/
  threads : Table Nat Thread
  /-- The number of the next thread. -/
  nextThread : Nat
  /-- Who waits for the calls of connectors. -/
  waits : Table (Nat × Nat) Wait
  /-- The replies that the cloud will give, in order. -/
  replies : List (Except Failure CloudReply)
  /-- The next handle. -/
  handles : Handle
  /-- The labels of clients, by handle: a word and a number. -/
  labels : Table Handle (String × Nat)
  /-- The results that have come in. -/
  results : List (Nat × Except Failure Answer)
  /-- The events since the last report. -/
  events : List Event
  /-- The limit on reactions. -/
  limit : Nat

namespace World

/-- A world with connector types and nothing else. -/
def initial (logger : Logger) (types : Table String ConnectorType) (scripts : Table String Script)
    (realTools : List String) (files : Table String String) (limit : Nat) : World where
  logger := logger
  types := types
  scripts := scripts
  realTools := realTools
  files := files
  serials := ∅
  main := .empty
  other := .empty
  process := .empty
  connectors := ∅
  titles := ∅
  names := ∅
  records := ∅
  snapshots := ∅
  openGates := []
  blocked := []
  queue := []
  threads := ∅
  nextThread := 0
  waits := ∅
  replies := []
  handles := 0
  labels := ∅
  results := []
  events := []
  limit := limit

/-- A registry of the world. -/
def registry (w : World) : RegistryName → Registry Nat
  | .main => w.main
  | .other => w.other
  | .process => w.process

/-- Replace a registry of the world. -/
def setRegistry (w : World) (r : Registry Nat) : RegistryName → World
  | .main => { w with main := r }
  | .other => { w with other := r }
  | .process => { w with process := r }

/-- The script of a service. -/
def script (w : World) (service : String) : Script := (w.scripts.get? service).getD .smooth

/-- Record an event. -/
def record (w : World) (e : Event) : World := { w with events := w.events ++ [e] }

/-- Give a line to a logger. -/
def emit (w : World) (logger : Logger) (line : LogLine) : World :=
  match logger.write line with
  | some e => w.record (.emitted e)
  | none => w

/-- Record the result of a step. -/
def finish (w : World) (task : Nat) (result : Except Failure Answer) : World :=
  { w with results := w.results ++ [(task, result)] }

/-- Schedule a turn. -/
def schedule (w : World) (turn : Turn) : World := { w with queue := w.queue ++ [turn] }

/-- The label of a client: its word, and its number among the labelled clients of that word. -/
def label (w : World) (word : String) (handle : Handle) : World × String :=
  match w.labels.get? handle with
  | some (word, n) => (w, word ++ "#" ++ toString n)
  | none =>
    let n := (w.labels.values.filter fun l => l.1 = word).length + 1
    ({ w with labels := w.labels.insert handle (word, n) }, word ++ "#" ++ toString n)

/-- The word for a kind of cloud client. -/
def wordFor : CloudClientKind → String
  | .storage => "s3"
  | .tokens => "sts"

/-- The label of a cloud client. -/
def cloudLabel (w : World) (c : CloudClient) : World × String := w.label (wordFor c.kind) c.handle

end World

end Session

end ServiceAccess.Rehearsal
