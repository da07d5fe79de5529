import ServiceAccess.ClientCache.Basic

/-! # The steps of a client cache

`ClientCache.step` says what the cache does when it is called, when a creation or a release ends, and
when it runs its oldest continuation.

* `acquire` hands out a stored client built with the same credentials, joins the latest creation of the
  key if that builds with them, and else starts a creation, which first releases the stored client.
* A creation that ends with a client stores it, unless a client of a later creation is stored; a client
  of an earlier creation is released first.
* `evictStale` sweeps out at once what was built with other credentials; `clear` waits for the flights
  of its time and then sweeps out what is no younger than the call. Both end when their releases have
  ended, with the first failure in the order of the clients. -/

namespace ServiceAccess.ClientCache

variable {ρ κ ε : Type}

/-- What can happen to a cache. -/
inductive Input (ρ κ ε : Type) where
  /-- A client is wanted for a key. -/
  | acquire (key fingerprint : String) (request : ρ)
  /-- Clients built with other credentials are to go. -/
  | evictStale (fingerprint : String)
  /-- All clients are to go. -/
  | clear
  /-- The create call of a creation has ended. -/
  | created (generation : Nat) (result : Except ε κ)
  /-- A release has ended. -/
  | released (release : Nat) (result : Except ε Unit)
  /-- The oldest continuation runs. -/
  | resume

/-- A step: the next state and what it asks for. -/
abbrev Turn (ρ κ ε : Type) := ClientCache ρ κ ε × List (Effect ρ κ ε)

/-- Schedule a continuation. -/
def schedule (c : ClientCache ρ κ ε) (job : Job) : ClientCache ρ κ ε :=
  { c with jobs := c.jobs ++ [job] }

/-- Change a creation. -/
def revise (c : ClientCache ρ κ ε) (generation : Nat)
    (f : Creation ρ κ ε → Creation ρ κ ε) : ClientCache ρ κ ε :=
  match c.creations.get? generation with
  | some creation => { c with creations := c.creations.insert generation (f creation) }
  | none => c

/-- Bring a creation to a stage. -/
def enter (c : ClientCache ρ κ ε) (generation : Nat) (stage : Stage κ ε) : ClientCache ρ κ ε :=
  c.revise generation fun creation => { creation with stage := stage }

/-- End a creation: its callers are answered by a continuation. -/
def finish (c : ClientCache ρ κ ε) (generation : Nat) (outcome : Except ε κ) : ClientCache ρ κ ε :=
  (c.enter generation (.finished outcome)).schedule (.answer generation)

/-- Make the create call of a creation. -/
def connect (c : ClientCache ρ κ ε) (generation : Nat) (creation : Creation ρ κ ε) : Turn ρ κ ε :=
  (c.enter generation .connecting,
    [.note (.missed creation.key), .create generation creation.request])

/-- Store the client of a creation and end it. -/
def store (c : ClientCache ρ κ ε) (generation : Nat) (creation : Creation ρ κ ε) (client : κ) :
    ClientCache ρ κ ε :=
  let entry := ⟨client, creation.fingerprint, generation⟩
  { c with entries := c.entries.insert creation.key entry }.finish generation (.ok client)

/-- Note the result of one release of a sweep. -/
def Sweep.note (s : Sweep κ ε) (release : Nat) (result : Except ε Unit) : Sweep κ ε :=
  { s with releases := s.releases.map fun r => if r.1 = release then (release, some result) else r }

/-- Whether all releases of a sweep have ended. -/
def Sweep.isOver (s : Sweep κ ε) : Bool := s.releases.all fun r => r.2.isSome

/-- The outcome of a sweep: the first failure in the order of the clients, or its answer. -/
def Sweep.outcome (s : Sweep κ ε) : Except ε (Answer κ) :=
  match s.releases.findSome? fun (r : Nat × Option (Except ε Unit)) => match r.2 with
    | some (.error e) => some e
    | _ => none with
  | some e => .error e
  | none => .ok s.answer

/-- Note the result of one release of a sweep, and conclude the sweep when it was the last. -/
def noteRelease (c : ClientCache ρ κ ε) (call release : Nat) (result : Except ε Unit) :
    ClientCache ρ κ ε :=
  match c.sweeps.get? call with
  | none => c
  | some sweep =>
    let sweep := sweep.note release result
    let c := { c with sweeps := c.sweeps.insert call sweep }
    if sweep.isOver then c.schedule (.conclude call) else c

/-- Go on after the release that a creation waited for. -/
def proceed (c : ClientCache ρ κ ε) (generation : Nat) (result : Except ε Unit) : Turn ρ κ ε :=
  match c.creations.get? generation with
  | none => (c, [])
  | some creation =>
    match creation.stage, result with
    | .releasing, .ok () => c.connect generation creation
    | .replacing client, .ok () => (c.store generation creation client, [])
    | .releasing, .error e => (c.finish generation (.error e), [])
    | .replacing _, .error e => (c.finish generation (.error e), [])
    | _, _ => (c, [])

/-- Go on after a release. -/
def settleRelease (c : ClientCache ρ κ ε) (release : Nat) (result : Except ε Unit) : Turn ρ κ ε :=
  match c.owners.get? release with
  | none => (c, [])
  | some owner =>
    let c := { c with owners := c.owners.erase release }
    match owner with
    | .creation generation => c.proceed generation result
    | .sweep call => (c.noteRelease call release result, [])

/-- Start the release of a client on behalf of an owner. Where clients need no release, it ends by a
continuation. -/
def release (c : ClientCache ρ κ ε) (owner : Owner) (client : κ) : Turn ρ κ ε :=
  let number := c.releases
  let c := { c with releases := number + 1, owners := c.owners.insert number owner }
  if c.disposes then (c, [.dispose number client]) else (c.schedule (.release number), [])

/-- Release swept clients, one after another. -/
def releaseEach (c : ClientCache ρ κ ε) (call : Nat) : List κ → Turn ρ κ ε
  | [] => (c, [])
  | client :: rest =>
    let (c, first) := c.release (.sweep call) client
    let (c, others) := c.releaseEach call rest
    (c, first ++ others)

/-- Release the clients that a call sweeps out of the cache. -/
def sweepOut (c : ClientCache ρ κ ε) (call : Nat) (answer : Answer κ) (clients : List κ) :
    Turn ρ κ ε :=
  let numbers := (List.range clients.length).map fun i => (c.releases + i, none)
  let c := { c with sweeps := c.sweeps.insert call ⟨answer, numbers⟩ }
  if clients.isEmpty then (c.schedule (.conclude call), []) else c.releaseEach call clients

/-- Start a creation for a key that has no usable client. -/
def start (c : ClientCache ρ κ ε) (call : Nat) (key fingerprint : String) (request : ρ) :
    Turn ρ κ ε :=
  let stale := c.entries.get? key
  let generation := c.generation + 1
  let creation := ⟨key, fingerprint, request, .releasing, [call]⟩
  let c := { c with
    entries := c.entries.erase key
    generation := generation
    creations := c.creations.insert generation creation
    flights := c.flights.insert key ⟨fingerprint, generation⟩ }
  match stale with
  | none => c.connect generation creation
  | some entry =>
    let (c, effects) := c.release (.creation generation) entry.client
    (c, .note (.evicted key) :: effects)

/-- A client is wanted for a key. -/
def acquire (c : ClientCache ρ κ ε) (key fingerprint : String) (request : ρ) : Turn ρ κ ε :=
  let call := c.calls
  let c := { c with calls := call + 1 }
  let usable := (c.entries.get? key).filter fun entry => entry.fingerprint = fingerprint
  let flight := (c.flights.get? key).filter fun flight => flight.fingerprint = fingerprint
  match usable, flight with
  | some entry, _ => (c, [.note (.hit key), .settled call (.ok (.client entry.client))])
  | none, some flight =>
    (c.revise flight.generation fun creation =>
      { creation with callers := creation.callers ++ [call] }, [.note (.joined key)])
  | none, none => c.start call key fingerprint request

/-- Hand out the client of a creation without storing it. -/
def detach [DecidableEq κ] (c : ClientCache ρ κ ε) (generation : Nat) (client : κ) :
    ClientCache ρ κ ε :=
  let detached := if client ∈ c.detached then c.detached else c.detached ++ [client]
  { c with detached := detached }.finish generation (.ok client)

/-- Find a place for the client that a creation has made. -/
def settle [DecidableEq κ] (c : ClientCache ρ κ ε) (generation : Nat) (creation : Creation ρ κ ε)
    (client : κ) : Turn ρ κ ε :=
  match c.entries.get? creation.key with
  | none => (c.store generation creation client, [])
  | some entry =>
    if generation < entry.generation then
      (c.detach generation client, [.note (.superseded creation.key)])
    else (c.enter generation (.replacing client)).release (.creation generation) entry.client

/-- The create call of a creation has ended. -/
def settleCreation [DecidableEq κ] (c : ClientCache ρ κ ε) (generation : Nat)
    (result : Except ε κ) : Turn ρ κ ε :=
  match c.creations.get? generation with
  | none => (c, [])
  | some creation =>
    match creation.stage, result with
    | .connecting, .ok client => c.settle generation creation client
    | .connecting, .error e => (c.finish generation (.error e), [])
    | _, _ => (c, [])

/-- Clients built with other credentials are to go, and with them all clients never stored. -/
def evictStale (c : ClientCache ρ κ ε) (fingerprint : String) : Turn ρ κ ε :=
  let call := c.calls
  let stale := c.entries.filter fun _ entry => entry.fingerprint ≠ fingerprint
  let clients := c.detached ++ stale.values.map Entry.client
  let c := { c with
    calls := call + 1
    detached := []
    entries := c.entries.filter fun _ entry => entry.fingerprint = fingerprint }
  c.sweepOut call (.count clients.length) clients

/-- All clients are to go once the flights of this moment have ended. -/
def clear (c : ClientCache ρ κ ε) : Turn ρ κ ε :=
  let call := c.calls
  let awaited := c.flights.values.map Flight.generation
  let c := { c with calls := call + 1, waiting := c.waiting.insert call ⟨c.generation, awaited⟩ }
  (if awaited.isEmpty then c.schedule (.sweep call) else c, [])

/-- Sweep for a clear call. -/
def sweepFor (c : ClientCache ρ κ ε) (call : Nat) : Turn ρ κ ε :=
  match c.waiting.get? call with
  | none => (c, [])
  | some waiting =>
    let old := c.entries.filter fun _ entry => entry.generation ≤ waiting.horizon
    let clients := c.detached ++ old.values.map Entry.client
    let c := { c with
      waiting := c.waiting.erase call
      detached := []
      entries := c.entries.filter fun _ entry => !decide (entry.generation ≤ waiting.horizon) }
    let (c, effects) := c.sweepOut call .done clients
    (c, (if clients.isEmpty then [] else [.note (.released clients.length)]) ++ effects)

/-- Tell the clear calls that a creation is over; those that waited for it last will sweep. -/
def notifyWaiting (c : ClientCache ρ κ ε) (generation : Nat) : ClientCache ρ κ ε :=
  let ready := c.waiting.filter fun _ w =>
    w.awaited.contains generation && w.awaited.all fun g => g = generation
  { c with
    waiting := c.waiting.map fun _ w =>
      { w with awaited := w.awaited.filter fun g => !decide (g = generation) }
    jobs := c.jobs ++ ready.keys.map Job.sweep }

/-- Answer the callers of a finished creation. -/
def answerCallers (c : ClientCache ρ κ ε) (generation : Nat) : Turn ρ κ ε :=
  match c.creations.get? generation with
  | some { key, stage := .finished outcome, callers, .. } =>
    let c := { c with
      creations := c.creations.erase generation
      flights := c.flights.filter fun k f => !(decide (k = key) && decide (f.generation = generation)) }
    (c.notifyWaiting generation, callers.map fun call => .settled call (outcome.map .client))
  | _ => (c, [])

/-- Answer a call whose releases are over. -/
def concludeSweep (c : ClientCache ρ κ ε) (call : Nat) : Turn ρ κ ε :=
  match c.sweeps.get? call with
  | none => (c, [])
  | some sweep => ({ c with sweeps := c.sweeps.erase call }, [.settled call sweep.outcome])

/-- Run a continuation. -/
def run (c : ClientCache ρ κ ε) : Job → Turn ρ κ ε
  | .answer generation => c.answerCallers generation
  | .sweep call => c.sweepFor call
  | .conclude call => c.concludeSweep call
  | .release number => c.settleRelease number (.ok ())

/-- Run the oldest continuation. -/
def resume (c : ClientCache ρ κ ε) : Turn ρ κ ε :=
  match c.jobs with
  | [] => (c, [])
  | job :: jobs => { c with jobs := jobs }.run job

/-- What the cache does when something happens to it. -/
def step [DecidableEq κ] (c : ClientCache ρ κ ε) : Input ρ κ ε → Turn ρ κ ε
  | .acquire key fingerprint request => c.acquire key fingerprint request
  | .evictStale fingerprint => c.evictStale fingerprint
  | .clear => c.clear
  | .created generation result => c.settleCreation generation result
  | .released number result => c.settleRelease number result
  | .resume => c.resume

end ServiceAccess.ClientCache
