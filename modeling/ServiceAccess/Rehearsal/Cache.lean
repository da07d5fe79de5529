import ServiceAccess.ClientCache.Step
import ServiceAccess.Rehearsal.Basic

/-! # Rehearsing a client cache

A client cache whose create and release calls are scripted: a call may wait for a gate and may then fail.
A gate is closed until it is opened, and stays open. Calls that wait for one gate go on in the order in
which they began to wait. -/

namespace ServiceAccess.Rehearsal

/-- How a scripted call goes: it waits for a gate, if there is one, and then maybe fails. -/
structure CallScript where
  /-- The gate. -/
  gate : Option String
  /-- The failure. -/
  failure : Option Failure

namespace CacheStage

/-- A scripted create call. -/
structure Creation where
  /-- What the call is reported as. -/
  id : String
  /-- The client that it gives. -/
  client : String
  /-- How it goes. -/
  script : CallScript

/-- What there is to do. -/
inductive Step where
  /-- Ask for a client. -/
  | acquire (key fingerprint : String) (creation : Creation)
  /-- Evict what was built with other credentials. -/
  | evictStale (fingerprint : String)
  /-- Release everything. -/
  | clear
  /-- Open a gate. -/
  | openGate (gate : String)
  /-- Say how releases of a client go from now on. -/
  | scriptRelease (client : String) (script : CallScript)
  /-- Is a client stored under a key? -/
  | has (key : String) (fingerprint : Option String)
  /-- Is a client of some credentials stored? -/
  | hasFingerprint (fingerprint : String)

/-- What happens. -/
inductive Event where
  /-- A line is logged. -/
  | log (message : String)
  /-- A create call begins. -/
  | create (id : String)
  /-- A release begins. -/
  | dispose (client : String)

/-- The result of a step. -/
inductive Result where
  /-- No result. -/
  | nothing
  /-- The name of a client. -/
  | client (name : String)
  /-- A number. -/
  | count (n : Nat)
  /-- A truth value. -/
  | flag (b : Bool)

/-- The cache under rehearsal. -/
abbrev ScriptedCache := ClientCache Creation String Failure

/-- What is fed to it. -/
abbrev Reaction := ClientCache.Input Creation String Failure

/-- The world of the rehearsal. -/
structure World where
  /-- The label of log lines. -/
  label : String
  /-- Whether lines are logged. -/
  logs : Bool
  /-- The cache. -/
  cache : ScriptedCache
  /-- The open gates. -/
  openGates : List String
  /-- How releases go, by client. -/
  releases : Table String CallScript
  /-- What happens next, in order. -/
  queue : List Reaction
  /-- What waits for a gate, in order. -/
  blocked : List (String × Reaction)
  /-- The steps that wait for an answer of the cache, by the number of the call. -/
  calls : Table Nat Nat
  /-- The results that have come in. -/
  results : List (Nat × Except Failure Result)
  /-- The events since the last report. -/
  events : List Event
  /-- The limit on reactions. -/
  limit : Nat

/-- The world at the beginning. -/
def World.initial (label : String) (logs disposes : Bool) (limit : Nat) : World :=
  ⟨label, logs, .empty disposes, [], ∅, [], [], ∅, [], [], limit⟩

namespace World

/-- Let something happen once a gate is open. -/
def await (w : World) (gate : Option String) (reaction : Reaction) : World :=
  match gate.filter fun g => !w.openGates.contains g with
  | some closed => { w with blocked := w.blocked ++ [(closed, reaction)] }
  | none => { w with queue := w.queue ++ [reaction] }

/-- Record an event. -/
def record (w : World) (e : Event) : World := { w with events := w.events ++ [e] }

/-- Record a result. -/
def finish (w : World) (task : Nat) (result : Except Failure Result) : World :=
  { w with results := w.results ++ [(task, result)] }

/-- The result of a call to the cache. -/
def resultOf : ClientCache.Answer String → Result
  | .client name => .client name
  | .count n => .count n
  | .done => .nothing

/-- The end of a scripted call that gives a value. -/
def ending {α : Type} (script : CallScript) (value : α) : Except Failure α :=
  match script.failure with
  | some failure => .error failure
  | none => .ok value

/-- Do what the cache asks for. -/
def perform (w : World) : ClientCache.Effect Creation String Failure → World
  | .note n => if w.logs then w.record (.log (w.label ++ ": " ++ n.text)) else w
  | .create generation creation =>
    (w.record (.create creation.id)).await creation.script.gate
      (.created generation (ending creation.script creation.client))
  | .dispose number client =>
    let script := (w.releases.get? client).getD ⟨none, none⟩
    (w.record (.dispose client)).await script.gate (.released number (ending script ()))
  | .settled call outcome =>
    match w.calls.get? call with
    | some task => w.finish task (outcome.map resultOf)
    | none => w

/-- Take a step of the cache. Continuations that it schedules happen after everything before them. -/
def advance (w : World) (reaction : Reaction) : World :=
  let before := match reaction with
    | .resume => w.cache.jobs.length - 1
    | _ => w.cache.jobs.length
  let (cache, effects) := w.cache.step reaction
  let w := effects.foldl perform { w with cache := cache }
  { w with queue := w.queue ++ List.replicate (cache.jobs.length - before) .resume }

/-- Call the cache on behalf of a step. -/
def call (w : World) (task : Nat) (reaction : Reaction) : World :=
  { w with calls := w.calls.insert w.cache.calls task }.advance reaction

/-- Open a gate. -/
def openGate (w : World) (gate : String) : World :=
  { w with
    openGates := gate :: w.openGates
    queue := w.queue ++ (w.blocked.filter fun b => b.1 = gate).map Prod.snd
    blocked := w.blocked.filter fun b => b.1 ≠ gate }

/-- Start a step. -/
def start (w : World) (task : Nat) : Step → World
  | .acquire key fingerprint creation => w.call task (.acquire key fingerprint creation)
  | .evictStale fingerprint => w.call task (.evictStale fingerprint)
  | .clear => w.call task .clear
  | .openGate gate => (w.openGate gate).finish task (.ok .nothing)
  | .scriptRelease client script =>
    { w with releases := w.releases.insert client script }.finish task (.ok .nothing)
  | .has key fingerprint => w.finish task (.ok (.flag (w.cache.has key fingerprint)))
  | .hasFingerprint fingerprint => w.finish task (.ok (.flag (w.cache.hasFingerprint fingerprint)))

/-- Let things happen, at most as many as the fuel allows. -/
def settle : (fuel : Nat) → World → World
  | 0, w => w
  | fuel + 1, w =>
    match w.queue with
    | [] => w
    | reaction :: rest => settle fuel ({ w with queue := rest }.advance reaction)

end World

/-- What can be seen of the cache: the keys and the number of clients. -/
structure Snapshot where
  /-- The keys. -/
  keys : List String
  /-- The number of clients. -/
  size : Nat

/-- The rehearsal of a cache. -/
def stage : Stage World Step Result Result Event Snapshot where
  start := World.start
  settle w := w.settle w.limit
  takeResults w := ({ w with results := [] }, w.results)
  present w r := (w, r)
  takeEvents w := ({ w with events := [] }, w.events)
  snapshot w := ⟨w.cache.keys, w.cache.size⟩

end CacheStage

end ServiceAccess.Rehearsal
