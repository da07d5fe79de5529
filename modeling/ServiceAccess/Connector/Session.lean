import ServiceAccess.Connector.Basic

/-! # Connecting, rotating and disconnecting

The calls of a connector that go through its client cache, as steps. A call that cannot be made is refused
at once and changes nothing. Every other call has the number `ClientCache.calls` of the moment before it
and is answered by an `Effect.settled` with that number.

`Connector.step` is all that can happen to a connector: the three calls, and the ends of creations, releases
and continuations of its cache. -/

namespace ServiceAccess.Connector

/-- The key of the implicit resource. -/
def implicitKey : String := "<implicit>"

/-- What can happen to a connector. -/
inductive Input where
  /-- A client is wanted, for a target. -/
  | connect (resourceId : Option String)
  /-- The credentials are to be replaced. -/
  | rotate (bundle : Bundle)
  /-- All clients are to be released. -/
  | disconnect
  /-- A handshake has ended. -/
  | created (generation : Nat) (result : Except Failure Client)
  /-- A release has ended. -/
  | released (release : Nat) (result : Except Failure Unit)
  /-- The oldest continuation runs. -/
  | resume

/-- What a connector asks of its surroundings. -/
inductive Effect where
  /-- Write a log line. -/
  | log (line : LogLine)
  /-- Make a handshake with the provider. -/
  | create (generation : Nat) (context : Context)
  /-- Release a client with the provider. -/
  | dispose (release : Nat) (client : Client)
  /-- Answer a call. -/
  | settled (call : Nat) (outcome : Except Failure (ClientCache.Answer Client))
  /-- Refuse the call that is being made. -/
  | refused (failure : Failure)

/-- A step: the next state and what it asks for. -/
abbrev Turn := Connector × List Effect

/-- What an effect of the cache is to the connector. A sweep after a rotation reports what it released. -/
def ofCacheEffect (c : Connector) : ClientCache.Effect Context Client Failure → List Effect
  | .note n => [.log (c.line .info n.text)]
  | .create generation context => [.create generation context]
  | .dispose release client => [.dispose release client]
  | .settled call (.ok (.count n)) =>
    (if n = 0 then []
      else [.log (c.line .info ("credentials rotated, released " ++ toString n ++ " cached client(s)"))])
      ++ [.settled call (.ok (.count n))]
  | .settled call outcome => [.settled call outcome]

/-- A step of the cache as a step of the connector. -/
def withCache (c : Connector) (turn : ClientCache.Turn Context Client Failure) : Turn :=
  ({ c with cache := turn.1 }, turn.2.flatMap c.ofCacheEffect)

/-- Ask the cache for a client of a target. -/
def acquire (c : Connector) (resource : Option ResourceId) : Turn :=
  let key := (resource.map ResourceId.canonicalId).getD implicitKey
  c.withCache (c.cache.acquire key c.fingerprint (c.context resource))

/-- A client is wanted, for a target. -/
def connect (c : Connector) (resourceId : Option String) : Except Failure Turn :=
  (c.target resourceId).map c.acquire

/-- Replace the credentials and sweep out what was built with others. -/
def adopt (c : Connector) (credentials : Credentials) : Turn :=
  let c := { c with credentials := credentials, fingerprint := credentials.fingerprint }
  c.withCache (c.cache.evictStale c.fingerprint)

/-- The credentials are to be replaced. -/
def rotate (c : Connector) (bundle : Bundle) : Except Failure Turn :=
  (Credentials.parse c.method bundle).map c.adopt

/-- All clients are to be released. -/
def disconnect (c : Connector) : Turn := c.withCache c.cache.clear

/-- A call, or its refusal. -/
def orRefuse (c : Connector) : Except Failure Turn → Turn
  | .ok turn => turn
  | .error failure => (c, [.refused failure])

/-- What the connector does when something happens to it. -/
def step (c : Connector) : Input → Turn
  | .connect resourceId => c.orRefuse (c.connect resourceId)
  | .rotate bundle => c.orRefuse (c.rotate bundle)
  | .disconnect => c.disconnect
  | .created generation result => c.withCache (c.cache.settleCreation generation result)
  | .released release result => c.withCache (c.cache.settleRelease release result)
  | .resume => c.withCache c.cache.resume

end ServiceAccess.Connector
