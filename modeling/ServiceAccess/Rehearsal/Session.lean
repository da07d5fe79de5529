import ServiceAccess.Rehearsal.Services

/-! # Rehearsing a session

The steps of a session: registering and looking up connector types, making, storing and restoring
connectors, connecting, verifying, rotating and disconnecting them, and changing the scripts meanwhile. -/

namespace ServiceAccess.Rehearsal.Session

/-- A connector type, named in a step. -/
inductive TypeRef where
  /-- The type of an identifier in a registry. -/
  | registered (id : String)
  /-- A type of the session. -/
  | inline (name : String)

/-- Credentials, given in a step. -/
inductive BundleRef where
  /-- A bundle. -/
  | given (b : Bundle)
  /-- The credentials of a connector. -/
  | ofConnector (name : String)

/-- A stored connector, given in a step. -/
inductive RecordRef where
  /-- A record. -/
  | given (r : ConnectorRecord)
  /-- A kept record. -/
  | kept (name : String)

/-- The ways of reading a field. -/
inductive FieldRead where
  /-- The value as it is. -/
  | value
  /-- The plain text. -/
  | string
  /-- The secret. -/
  | secret
  /-- The secret, if there is one. -/
  | optionalSecret
  /-- Whether there is a value. -/
  | has
  /-- Whether the value is a secret. -/
  | isSecret

/-- A step. -/
inductive Step where
  /-- Register a type of the session. -/
  | register (type : String) (registry : RegistryName)
  /-- Describe a registered type. -/
  | getType (id : String) (registry : RegistryName)
  /-- Look a registered type up. -/
  | findType (id : String) (registry : RegistryName)
  /-- Is a type registered? -/
  | hasType (id : String) (registry : RegistryName)
  /-- List the registered types. -/
  | listTypes (registry : RegistryName)
  /-- Keep the list of registered types. -/
  | snapshot (name : String) (registry : RegistryName)
  /-- Show a kept list. -/
  | showSnapshot (name : String)
  /-- Make a connector. -/
  | create (name : String) (type : TypeRef) (registry : RegistryName) (bundle : BundleRef)
      (settings : ConnectorSettings)
  /-- Make a connector with settings from the surroundings. -/
  | autoConfigure (name : String) (type : TypeRef) (registry : RegistryName)
      (request : AutoConfigureRequest)
  /-- Restore a stored connector. -/
  | restore (name : String) (record : RecordRef) (registry : RegistryName)
      (secrets : Table String String)
  /-- Describe a connector. -/
  | describe (connector : String)
  /-- Show the JSON form of a connector. -/
  | json (connector : String)
  /-- Read a field of a connector's credentials. -/
  | read (connector : String) (how : FieldRead) (field : String)
  /-- Read a resource ID. -/
  | canonical (connector resourceType resourceId : String)
  /-- Connect. -/
  | connect (connector : String) (resourceId : Option String)
  /-- Verify. -/
  | verify (connector : String) (resourceType resourceId : Option String)
  /-- Set up a local tool. -/
  | configureLocal (connector : String) (resourceId : Option String)
  /-- Replace the credentials. -/
  | rotate (connector : String) (bundle : BundleRef)
  /-- Disconnect. -/
  | disconnect (connector : String)
  /-- Store a connector, and maybe keep the record. -/
  | serialize (connector : String) (includeSecrets : Bool) (keep : Option String)
  /-- Name a live connector in a registry. -/
  | addConnector (name connector : String) (registry : RegistryName)
  /-- Look a live connector up. -/
  | getConnector (name : String) (registry : RegistryName)
  /-- Is there a live connector of a name? -/
  | hasConnector (name : String) (registry : RegistryName)
  /-- List the live connectors. -/
  | listConnectors (registry : RegistryName)
  /-- Remove a live connector. -/
  | removeConnector (name : String) (registry : RegistryName)
  /-- Change the script of a service. -/
  | script (service : String) (entries : List ScriptEntry)
  /-- Queue replies of the cloud. -/
  | replies (l : List (Except Failure CloudReply))
  /-- Open a gate. -/
  | openGate (gate : String)

namespace World

/-! ## Threads -/

/-- Run a routine up to its next question. -/
def run (w : World) (logger : Logger) : Routine Completion → World × Routine Completion
  | .note level message next => (w.emit logger ⟨level, message⟩).run logger next
  | .allocate next => { w with handles := w.handles + 1 }.run logger (next w.handles)
  | .close client next =>
    let (w, label) := w.cloudLabel client
    (w.record (.destroy label)).run logger next
  | stopped => (w, stopped)

/-- Ask the question that a routine has come to. -/
def ask (w : World) : Routine Completion → Asked
  | .ask query _ => w.askQuery query
  | .listing client token _ _ => (w.send client (.buckets token), 0, none)
  | _ => (w, 0, none)

/-- Run a thread up to its next question, and let it wait for the answer. -/
def proceed (w : World) (number : Nat) (logger : Logger) (program : Routine Completion) : World :=
  let (w, stopped) := w.run logger program
  let (w, serial, gate) := w.ask stopped
  let w := { w with threads := w.threads.insert number ⟨logger, stopped, serial⟩ }
  match gate.filter fun g => !w.openGates.contains g with
  | some closed => { w with blocked := w.blocked ++ [(closed, number)] }
  | none => w.schedule (.thread number)

/-- Start a thread that ends in a given way. -/
def startThread {α : Type} (w : World) (logger : Logger) (program : Routine α)
    (completion : Except Failure α → Completion) : World :=
  let number := w.nextThread
  { w with nextThread := number + 1 }.proceed number logger
    (program.attempt fun result => .done (.ok (completion result)))

/-! ## Connectors -/

/-- The result of a step that waited for a connector's call. -/
def callResult (w : World) (outcome : Except Failure (ClientCache.Answer Client)) : Wait → World
  | .client task =>
    w.finish task (outcome.map fun answer => match answer with
      | .client c => .client c
      | _ => .nothing)
  | .ending task => w.finish task (outcome.map fun _ => .nothing)
  | .removal name removal task =>
    let (r, effects) := (w.registry name).disconnected removal (outcome.map fun _ => ())
    effects.foldl (fun w e => match e with
      | .settled _ result => w.finish task (result.map .flag)
      | .disconnect .. => w) (w.setRegistry r name)

/-- Do what a connector asks for. A refused call answers the one who made it. -/
def performEffect (number : Nat) (c : Connector) (wait : Option Wait) (w : World) :
    Connector.Effect → World
  | .log line => w.emit c.logger line
  | .create generation context =>
    w.startThread c.logger (c.type.provider.connect context) (.created number generation)
  | .dispose release client =>
    let routine := match c.type.provider.disconnect with
      | some disconnect => disconnect client
      | none => pure ()
    w.startThread c.logger routine (.released number release)
  | .settled call outcome =>
    match w.waits.get? (number, call) with
    | some wait => w.callResult outcome wait
    | none => w
  | .refused failure =>
    match wait with
    | some wait => w.callResult (.error failure) wait
    | none => w

/-- Take a step of a connector on behalf of the one who waits for it. Continuations that it schedules
happen after everything before them. -/
def advance (w : World) (number : Nat) (input : Connector.Input) (wait : Option Wait) : World :=
  match w.connectors.get? number with
  | none => w
  | some c =>
    let before := match input with
      | .resume => c.cache.jobs.length - 1
      | _ => c.cache.jobs.length
    let call := c.cache.calls
    let (c, effects) := c.step input
    let w := { w with
      connectors := w.connectors.insert number c
      waits := match wait with
        | some wait => w.waits.insert (number, call) wait
        | none => w.waits }
    let w := effects.foldl (performEffect number c wait) w
    { w with queue := w.queue
        ++ List.replicate (c.cache.jobs.length - before) (.connector number) }

/-- Add a connector under a name. -/
def found (w : World) (name : String) (c : Connector) : World :=
  let number := w.connectors.size
  { w with
    connectors := w.connectors.insert number c
    titles := w.titles.insert number name
    names := w.names.insert name number }

/-- A thread has ended. -/
def complete (w : World) : Completion → World
  | .created connector generation result => w.advance connector (.created generation result) none
  | .released connector release result => w.advance connector (.released release result) none
  | .finished task result => w.finish task result
  | .founded task name (.ok c) => (w.found name c).finish task (.ok (.connector c))
  | .founded task _ (.error failure) => w.finish task (.error failure)

/-- A thread gets its answer. -/
def serve (w : World) (number : Nat) : World :=
  match w.threads.get? number with
  | none => w
  | some t =>
    let w := { w with threads := w.threads.erase number }
    match t.program with
    | .done (.ok completion) => w.complete completion
    | .ask query next =>
      let (w, reply) := w.answer t.serial query
      w.proceed number t.logger (next reply)
    | .listing client _ found next =>
      let (w, reply) := w.nextReply
      w.proceed number t.logger
        (Routine.turnPage client found next (reply.map CloudReply.page))
    | _ => w

/-- Let things happen, at most as many as the fuel allows. -/
def settle : (fuel : Nat) → World → World
  | 0, w => w
  | fuel + 1, w =>
    match w.queue with
    | [] => w
    | .thread number :: rest => settle fuel ({ w with queue := rest }.serve number)
    | .connector number :: rest =>
      settle fuel ({ w with queue := rest }.advance number .resume none)

/-! ## Steps -/

/-- The failure of naming a connector that does not exist. -/
def noConnector (name : String) : Failure :=
  .service ⟨"(no connector)", name, none, none, none⟩

/-- The number and the connector of a name. -/
def connector (w : World) (name : String) : Except Failure (Nat × Connector) :=
  match w.names.get? name with
  | none => .error (noConnector name)
  | some number =>
    match w.connectors.get? number with
    | some c => .ok (number, c)
    | none => .error (noConnector name)

/-- The connector type that a step names. -/
def typeOf (w : World) (registry : RegistryName) : TypeRef → Except Failure ConnectorType
  | .registered id => (w.registry registry).get id
  | .inline name =>
    match w.types.get? name with
    | some type => .ok type
    | none => .error (.unknownType name)

/-- The bundle that a step gives. -/
def bundleOf (w : World) : BundleRef → Except Failure Bundle
  | .given b => .ok b
  | .ofConnector name => (w.connector name).map fun c => c.2.credentials.toBundle

/-- The record that a step gives. -/
def recordOf (w : World) : RecordRef → Except Failure ConnectorRecord
  | .given r => .ok r
  | .kept name =>
    match w.records.get? name with
    | some r => .ok r
    | none => .error (noConnector name)

/-- End a step with a result. -/
def conclude (w : World) (task : Nat) (result : Except Failure Answer) : World := w.finish task result

/-- End a step that makes a connector. -/
def concludeFounding (w : World) (task : Nat) (name : String) (result : Except Failure Connector) :
    World := w.complete (.founded task name result)

/-- Go on with a part of a step that may fail. -/
def orFinish {α : Type} (w : World) (task : Nat) (part : Except Failure α) (next : α → World) : World :=
  match part with
  | .ok a => next a
  | .error failure => w.finish task (.error failure)

/-- One way of reading a field. -/
def readField (c : Credentials) (field : String) : FieldRead → Except Failure Answer
  | .value => .ok (.value (c.get? field))
  | .string => (c.string field).map .text
  | .secret => (c.secret field).map fun s => .text (some s)
  | .optionalSecret => (c.optionalSecret field).map .text
  | .has => .ok (.flag (c.has field))
  | .isSecret => .ok (.flag (c.isSecret field))

/-- Call a connector on behalf of the one who waits for it. -/
def call (w : World) (task : Nat) (name : String) (input : Connector.Input) (wait : Wait) : World :=
  w.orFinish task (w.connector name) fun c => w.advance c.1 input (some wait)

/-- Open a gate. -/
def openGate (w : World) (gate : String) : World :=
  { w with
    openGates := gate :: w.openGates
    queue := w.queue ++ (w.blocked.filter fun b => b.1 = gate).map fun b => .thread b.2
    blocked := w.blocked.filter fun b => b.1 ≠ gate }

/-- Remove a live connector. -/
def remove (w : World) (task : Nat) (name : String) (registry : RegistryName) : World :=
  let (r, effects) := (w.registry registry).removeConnector name
  effects.foldl (fun w e => match e with
    | .settled _ result => w.finish task (result.map .flag)
    | .disconnect removal number =>
      w.advance number .disconnect (some (.removal registry removal task))) (w.setRegistry r registry)

/-- Call a registry. It stays as the call leaves it. -/
def callRegistry (w : World) (task : Nat) (name : RegistryName) (call : Registry.Call Nat Unit) : World :=
  let (outcome, r) := call.run (w.registry name)
  (w.setRegistry r name).conclude task (outcome.map fun _ => .nothing)

/-- Start a step. -/
def start (w : World) (task : Nat) : Step → World
  | .register type registry =>
    w.orFinish task (w.typeOf registry (.inline type)) fun t =>
      w.callRegistry task registry (Registry.Call.register t)
  | .getType id registry =>
    w.conclude task (((w.registry registry).get id).map fun t => .spec t.spec)
  | .findType id registry =>
    w.conclude task (.ok (.text (((w.registry registry).find? id).map fun t => t.spec.id)))
  | .hasType id registry => w.conclude task (.ok (.flag ((w.registry registry).has id)))
  | .listTypes registry => w.conclude task (.ok (.types (w.registry registry).list))
  | .snapshot name registry =>
    let ids := (w.registry registry).list.map fun t => t.spec.id
    { w with snapshots := w.snapshots.insert name ids }.conclude task (.ok .nothing)
  | .showSnapshot name => w.conclude task (.ok (.texts ((w.snapshots.get? name).getD [])))
  | .create name type registry bundle settings =>
    w.orFinish task (w.bundleOf bundle) fun b =>
      w.concludeFounding task name ((w.typeOf registry type).bind fun t =>
        Connector.make? t { settings with bundle := b } w.logger)
  | .autoConfigure name type registry request =>
    w.orFinish task (w.typeOf registry type) fun t =>
      w.startThread w.logger (Connector.autoConfigure t request w.logger) (.founded task name)
  | .restore name record registry secrets =>
    w.concludeFounding task name ((w.recordOf record).bind fun r =>
      r.restore (w.registry registry) secrets w.logger)
  | .describe name => w.conclude task ((w.connector name).map fun c => .connector c.2)
  | .json name => w.conclude task ((w.connector name).map fun c => .json c.2)
  | .read name how field =>
    w.conclude task ((w.connector name).bind fun c => readField c.2.credentials field how)
  | .canonical name resourceType resourceId =>
    w.conclude task ((w.connector name).bind fun c =>
      (c.2.canonicalResourceId resourceType resourceId).map fun id => .text (some id))
  | .connect name resourceId => w.call task name (.connect resourceId) (.client task)
  | .verify name resourceType resourceId =>
    w.orFinish task (w.connector name) fun c =>
      w.startThread c.2.logger (c.2.verify resourceType resourceId)
        fun result => .finished task (result.map .texts)
  | .configureLocal name resourceId =>
    w.orFinish task (w.connector name) fun c =>
      w.startThread c.2.logger (c.2.configureLocal resourceId)
        fun result => .finished task (result.map fun _ => .nothing)
  | .rotate name bundle =>
    w.orFinish task (w.bundleOf bundle) fun b => w.call task name (.rotate b) (.ending task)
  | .disconnect name => w.call task name .disconnect (.ending task)
  | .serialize name includeSecrets keep =>
    w.orFinish task (w.connector name) fun c =>
      let r := c.2.record includeSecrets
      let w := match keep with
        | some as => { w with records := w.records.insert as r }
        | none => w
      w.conclude task (.ok (.record r))
  | .addConnector name connector registry =>
    w.orFinish task (w.connector connector) fun c =>
      w.callRegistry task registry (Registry.Call.addConnector name c.2.typeId c.1)
  | .getConnector name registry =>
    w.conclude task (((w.registry registry).getConnector name).map fun c => .text (w.titles.get? c))
  | .hasConnector name registry =>
    w.conclude task (.ok (.flag ((w.registry registry).instances.contains name)))
  | .listConnectors registry => w.conclude task (.ok (.texts (w.registry registry).instances.keys))
  | .removeConnector name registry => w.remove task name registry
  | .script service entries =>
    let script := entries.foldl Script.apply (w.script service)
    { w with scripts := w.scripts.insert service script }.conclude task (.ok .nothing)
  | .replies l => { w with replies := w.replies ++ l }.conclude task (.ok .nothing)
  | .openGate gate => (w.openGate gate).conclude task (.ok .nothing)

/-- Show a result: a client gets a label. -/
def present (w : World) : Answer → World × (Answer × Option String)
  | .client c =>
    let labelled := match c with
      | .engine handle .. => some ("docker", handle)
      | .cloud client => some (wordFor client.kind, client.handle)
      | .extension _ => none
    match labelled with
    | some (word, handle) =>
      let (w, label) := w.label word handle
      (w, .client c, some label)
    | none => (w, .client c, none)
  | a => (w, a, none)

/-- The states of the connectors, by name. -/
def states (w : World) : List (String × String) :=
  w.names.entries.filterMap fun e => (w.connectors.get? e.2).map fun c => (e.1, c.state)

end World

/-- The rehearsal of a session. -/
def stage : Stage World Step Answer (Answer × Option String) Event (List (String × String)) where
  start := World.start
  settle w := w.settle w.limit
  takeResults w := ({ w with results := [] }, w.results)
  present := World.present
  takeEvents w := ({ w with events := [] }, w.events)
  snapshot := World.states

end ServiceAccess.Rehearsal.Session
