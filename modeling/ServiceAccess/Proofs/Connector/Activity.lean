import ServiceAccess.Connector.Record
import ServiceAccess.Connector.Session
import ServiceAccess.Connector.Verification
import ServiceAccess.Proofs.Routine
import ServiceAccess.Proofs.Run

/-! # Connectors at work

A connector at work has routines under way: the handshakes and releases that its cache has asked for, its
verifications and the set-ups of its local tool. Each is a thread that runs up to its next question and goes on when
a reply comes in. The surroundings are a script of cues, in any order: calls, replies to threads, and the
moments at which the ends of threads and the continuations of the cache take effect.

* **`Activity.handle`**: what happens on a cue. **`Activity.connector_step`** is what it is to the connector.
* **`Sight`**: what can be seen of it from outside, and **`sights`**: what is seen in the course of a script.
  Of a client nothing is seen but that there is one. -/

namespace ServiceAccess.Connector

/-- How a routine of a connector ends. -/
inductive Ending where
  /-- A handshake. -/
  | created (generation : Nat) (result : Except Failure Client)
  /-- A release. -/
  | released (release : Nat) (result : Except Failure Unit)
  /-- A verification. -/
  | verified (result : Except Failure (List String))
  /-- The set-up of the local tool. -/
  | configured (result : Except Failure Unit)

/-- **A connector at work.** -/
structure Activity where
  /-- The connector. -/
  connector : Connector
  /-- Its routines under way, by number. -/
  threads : Table Nat (Routine Ending)
  /-- The number of the next routine. -/
  started : Nat
  /-- The next handle. -/
  handles : Handle

/-- What happens around a connector at work. Bundles are named. -/
inductive Cue (ι : Type) where
  /-- A client is wanted, for a target. -/
  | connect (resourceId : Option String)
  /-- The credentials are to be replaced. -/
  | rotate (bundle : ι)
  /-- All clients are to be released. -/
  | disconnect
  /-- The credentials are to be verified. -/
  | verify (resourceType resourceId : Option String)
  /-- The local tool is to be set up. -/
  | configureLocal (resourceId : Option String)
  /-- The canonical spelling of a resource ID is wanted. -/
  | canonical (resourceType raw : String)
  /-- A reply comes in for a routine. -/
  | reply (thread : Nat) (reply : Reply)
  /-- The end of a routine takes effect. -/
  | finish (thread : Nat)
  /-- The oldest continuation of the cache runs. -/
  | resume

/-- What can be seen of a connector at work. -/
inductive Sight where
  /-- A log line. -/
  | line (line : LogLine)
  /-- A call is refused. -/
  | refused (failure : Failure)
  /-- A call of the cache is answered: with a number of clients, or with another success, or it fails. -/
  | settled (call : Nat) (result : Except Failure (Option Nat))
  /-- A verification ends. -/
  | verified (thread : Nat) (result : Except Failure (List String))
  /-- The set-up of the local tool ends. -/
  | configured (thread : Nat) (result : Except Failure Unit)
  /-- The canonical spelling of a resource ID. -/
  | canonical (result : Except Failure String)
  /-- The state, the JSON form and the storage form without clear text. -/
  | shown (state : String) (json : Json) (record : ConnectorRecord)

namespace Activity

/-- A connector before its first call. -/
def idle (c : Connector) : Activity := ⟨c, ∅, 0, 0⟩

/-- Run a routine up to its next question. -/
def proceed (a : Activity) (thread : Nat) (program : Routine Ending) : Activity × List Sight :=
  let (lines, rest, handles) := program.proceed a.handles
  ({ a with threads := a.threads.insert thread rest, handles := handles }, lines.map .line)

/-- Start a routine that ends in a given way. -/
def start {α : Type} (a : Activity) (program : Routine α) (ending : Except Failure α → Ending) :
    Activity × List Sight :=
  { a with started := a.started + 1 }.proceed a.started
    (program.attempt fun result => .done (.ok (ending result)))

/-- What is seen of the answer to a call. -/
def seen : ClientCache.Answer Client → Option Nat
  | .count n => some n
  | _ => none

/-- Release a client with the provider. -/
def releasing (a : Activity) (client : Client) : Routine Unit :=
  match a.connector.type.provider.disconnect with
  | some disconnect => disconnect client
  | none => pure ()

/-- Do what the connector asks for. -/
def perform (a : Activity) : Effect → Activity × List Sight
  | .log line => (a, [.line line])
  | .create generation context =>
    a.start (a.connector.type.provider.connect context) (.created generation)
  | .dispose release client => a.start (a.releasing client) (.released release)
  | .settled call outcome => (a, [.settled call (outcome.map seen)])
  | .refused failure => (a, [.refused failure])

/-- Do all that the connector asks for, in order. -/
def performAll (a : Activity) : List Effect → Activity × List Sight
  | [] => (a, [])
  | e :: rest =>
    let (a, first) := a.perform e
    let (a, others) := a.performAll rest
    (a, first ++ others)

/-- Let the connector take a step. -/
def advance (a : Activity) (input : Input) : Activity × List Sight :=
  let (c, effects) := a.connector.step input
  { a with connector := c }.performAll effects

/-- The end of a routine takes effect. -/
def complete (a : Activity) (thread : Nat) : Ending → Activity × List Sight
  | .created generation result => a.advance (.created generation result)
  | .released release result => a.advance (.released release result)
  | .verified result => (a, [.verified thread result])
  | .configured result => (a, [.configured thread result])

variable {ι : Type} (bundles : ι → Bundle)

/-- What happens on a cue. -/
def handle (a : Activity) : Cue ι → Activity × List Sight
  | .connect resourceId => a.advance (.connect resourceId)
  | .rotate bundle => a.advance (.rotate (bundles bundle))
  | .disconnect => a.advance .disconnect
  | .verify resourceType resourceId =>
    a.start (a.connector.verify resourceType resourceId) .verified
  | .configureLocal resourceId => a.start (a.connector.configureLocal resourceId) .configured
  | .canonical resourceType raw =>
    (a, [.canonical (a.connector.canonicalResourceId resourceType raw)])
  | .reply thread reply =>
    match (a.threads.get? thread).bind fun program => program.react reply with
    | some next => a.proceed thread next
    | none => (a, [])
  | .finish thread =>
    match a.threads.get? thread with
    | some (.done (.ok ending)) => { a with threads := a.threads.erase thread }.complete thread ending
    | _ => (a, [])
  | .resume => a.advance .resume

/-- What the connector shows of itself. -/
def view (a : Activity) : Sight :=
  .shown a.connector.state a.connector.toJson (a.connector.record false)

/-- What happens on a cue, and a look at the connector after it. -/
def step (a : Activity) (cue : Cue ι) : Activity × List Sight :=
  ((a.handle bundles cue).1, (a.handle bundles cue).2 ++ [(a.handle bundles cue).1.view])

/-! ### The connector -/

/-- Routines are started around the connector. -/
theorem connector_perform (a : Activity) (e : Effect) : (a.perform e).1.connector = a.connector := by
  cases e <;> rfl

theorem connector_performAll (a : Activity) (effects : List Effect) :
    (a.performAll effects).1.connector = a.connector := by
  induction effects generalizing a with
  | nil => rfl
  | cons e rest ih => exact (ih _).trans (a.connector_perform e)

theorem connector_advance (a : Activity) (i : Input) :
    (a.advance i).1.connector = (a.connector.step i).1 :=
  connector_performAll _ _

/-- **Whatever the cue, the connector takes a step or stays as it is.** -/
theorem connector_step (a : Activity) (cue : Cue ι) :
    (a.step bundles cue).1.connector = a.connector ∨
      ∃ i, (a.step bundles cue).1.connector = (a.connector.step i).1 := by
  rw [step]
  cases cue with
  | connect | rotate | disconnect | resume => exact .inr ⟨_, connector_advance _ _⟩
  | verify | configureLocal | canonical => exact .inl rfl
  | reply thread reply =>
    rw [handle]
    split <;> exact .inl rfl
  | finish thread =>
    rw [handle]
    split
    · next ending _ =>
      cases ending with
      | created | released => exact .inr ⟨_, connector_advance _ _⟩
      | verified | configured => exact .inl rfl
    · exact .inl rfl

/-- What is kept by every step of a connector is kept at work. -/
theorem connector_after_induction {P : Connector → Prop} {a : Activity} (start : P a.connector)
    (next : ∀ c i, P c → P (c.step i).1) (script : List (Cue ι)) :
    P (Run.after (step bundles) a script).connector := by
  refine Run.after_induction (P := fun a : Activity => P a.connector) (step bundles) start
    (fun a cue kept => ?_) script
  rcases a.connector_step bundles cue with same | ⟨i, same⟩
  · rwa [same]
  · rw [same]
    exact next _ i kept

end Activity

/-- **What is seen of a connector in the course of a script**, cue by cue. -/
def sights {ι : Type} (bundles : ι → Bundle) (c : Connector) (script : List (Cue ι)) :
    Run.Trace (Cue ι) Sight :=
  Run.trace (Activity.step bundles) (.idle c) script

end ServiceAccess.Connector
