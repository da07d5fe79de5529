import ServiceAccess.Table

/-! # The state of a client cache

A `ClientCache` owns the client handles of one connector. It keeps one entry per resource key, with the
fingerprint of the credentials that the client was built with, and at most one flight per key, the latest
creation under way. Creations are numbered: their number is the generation of the client they make.

A call to the cache (`acquire`, `evictStale`, `clear`) gets a number and is answered later, by an
`Effect.settled`. The cache itself runs nothing: it asks for creations and releases by effects, is told
their results, and keeps its own continuations in `ClientCache.jobs`, oldest first. -/

namespace ServiceAccess

namespace ClientCache

/-- A stored client. -/
structure Entry (κ : Type) where
  /-- The client. -/
  client : κ
  /-- The fingerprint of the credentials it was built with. -/
  fingerprint : String
  /-- The number of the creation that made it. -/
  generation : Nat

/-- The latest creation under way for a key. -/
structure Flight where
  /-- The fingerprint that it builds with. -/
  fingerprint : String
  /-- Its number. -/
  generation : Nat
deriving DecidableEq

/-- How far a creation has come. -/
inductive Stage (κ ε : Type) where
  /-- It waits for the release of a client built with superseded credentials. -/
  | releasing
  /-- The create call is outstanding. -/
  | connecting
  /-- It holds a new client and waits for the release of the one to be replaced. -/
  | replacing (client : κ)
  /-- It is over, and its callers are about to be answered. -/
  | finished (outcome : Except ε κ)

/-- A creation whose callers have not been answered. -/
structure Creation (ρ κ ε : Type) where
  /-- The key that it creates for. -/
  key : String
  /-- The fingerprint that it builds with. -/
  fingerprint : String
  /-- What the create call is to be made with. -/
  request : ρ
  /-- How far it has come. -/
  stage : Stage κ ε
  /-- The calls that started or joined it, oldest first. -/
  callers : List Nat

/-- Who waits for a release. -/
inductive Owner where
  /-- A creation. -/
  | creation (generation : Nat)
  /-- A call that sweeps clients out of the cache. -/
  | sweep (call : Nat)
deriving DecidableEq

/-- What a call is answered with. -/
inductive Answer (κ : Type) where
  /-- A client. -/
  | client (c : κ)
  /-- The number of clients swept out. -/
  | count (n : Nat)
  /-- Nothing but the end of the call. -/
  | done

/-- The releases of one sweep. -/
structure Sweep (κ ε : Type) where
  /-- The answer when every release succeeds. -/
  answer : Answer κ
  /-- The releases with their results, in the order of the clients. -/
  releases : List (Nat × Option (Except ε Unit))

/-- A clear call that has not swept yet. -/
structure Waiting where
  /-- The number of the last creation before the call. -/
  horizon : Nat
  /-- The flights that it waits for. -/
  awaited : List Nat
deriving DecidableEq

/-- A continuation of the cache. -/
inductive Job where
  /-- Answer the callers of a finished creation. -/
  | answer (generation : Nat)
  /-- Sweep for a clear call. -/
  | sweep (call : Nat)
  /-- Answer a call whose releases are over. -/
  | conclude (call : Nat)
  /-- End a release that asked for nothing. -/
  | release (number : Nat)
deriving DecidableEq

/-- What the cache reports. -/
inductive Note where
  /-- A stored client is handed out. -/
  | hit (key : String)
  /-- A call joins a creation under way. -/
  | joined (key : String)
  /-- A client built with other credentials is released. -/
  | evicted (key : String)
  /-- A creation starts. -/
  | missed (key : String)
  /-- A client is not stored because a newer one is there. -/
  | superseded (key : String)
  /-- A clear call releases clients. -/
  | released (count : Nat)
deriving DecidableEq

/-- A report in words. -/
def Note.text : Note → String
  | .hit key => "cache hit for " ++ key
  | .joined key => "joining in-flight connection for " ++ key
  | .evicted key => "evicting client for " ++ key ++ " built with superseded credentials"
  | .missed key => "cache miss for " ++ key ++ ", connecting"
  | .superseded key => "client for " ++ key ++ " superseded before it was stored"
  | .released count => "released " ++ toString count ++ " cached client(s)"

/-- What the cache asks of its surroundings. -/
inductive Effect (ρ κ ε : Type) where
  /-- Report something. -/
  | note (n : Note)
  /-- Make the create call of a creation. -/
  | create (generation : Nat) (request : ρ)
  /-- Release a client. -/
  | dispose (release : Nat) (client : κ)
  /-- Answer a call. -/
  | settled (call : Nat) (outcome : Except ε (Answer κ))

end ClientCache

open ClientCache in
/-- A cache of clients `κ`, created from requests `ρ`, where creating and releasing fail with `ε`. -/
structure ClientCache (ρ κ ε : Type) where
  /-- Whether clients have to be released. -/
  disposes : Bool
  /-- The stored clients, by key. -/
  entries : Table String (Entry κ)
  /-- The latest creations under way, by key. -/
  flights : Table String Flight
  /-- The clients that were handed out and never stored, oldest first. -/
  detached : List κ
  /-- The number of the last creation. -/
  generation : Nat
  /-- The number of the next call. -/
  calls : Nat
  /-- The number of the next release. -/
  releases : Nat
  /-- The creations whose callers have not been answered, by number. -/
  creations : Table Nat (Creation ρ κ ε)
  /-- The outstanding releases, by number. -/
  owners : Table Nat Owner
  /-- The sweeps whose call has not been answered, by call. -/
  sweeps : Table Nat (Sweep κ ε)
  /-- The clear calls that have not swept yet, by call. -/
  waiting : Table Nat Waiting
  /-- The continuations to run, oldest first. -/
  jobs : List Job

namespace ClientCache

variable {ρ κ ε : Type}

/-- The cache without clients. -/
def empty (disposes : Bool) : ClientCache ρ κ ε :=
  ⟨disposes, ∅, ∅, [], 0, 0, 0, ∅, ∅, ∅, ∅, []⟩

/-- Whether a client is stored under a key, built with given credentials if these are asked for. -/
def has (c : ClientCache ρ κ ε) (key : String) (fingerprint : Option String) : Bool :=
  match c.entries.get? key with
  | none => false
  | some entry => match fingerprint with
    | none => true
    | some f => decide (entry.fingerprint = f)

/-- Whether any stored client was built with given credentials. -/
def hasFingerprint (c : ClientCache ρ κ ε) (fingerprint : String) : Bool :=
  c.entries.values.any fun entry => entry.fingerprint = fingerprint

/-- The keys of the stored clients. -/
def keys (c : ClientCache ρ κ ε) : List String := c.entries.keys

/-- The number of stored clients. -/
def size (c : ClientCache ρ κ ε) : Nat := c.entries.size

end ClientCache

end ServiceAccess
