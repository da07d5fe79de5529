import ServiceAccess.Proofs.ClientCache.Verdict
import ServiceAccess.Proofs.Connector.Disconnect
import ServiceAccess.Proofs.Connector.Validity

/-! # Rotations

A rotation replaces the credentials of a connector as a whole or not at all. A bundle that is not accepted is refused
before anything changes; once one is accepted, no failure of a release undoes or interrupts what it does.

* **`answersTo`**: what a call of the connector is answered with. `answersTo_asked` reads it off the cache.
* **`superseded`**: the clients that a rotation hands over, in order.
* **`RefusesRotation`**, **`AdoptsRotation`**: what a connector does with a bundle that is not accepted, and with one
  that is.
* **`rotation`**: every connector does so, however it has come about and whatever has happened to it. -/

namespace ServiceAccess.Connector

variable {c c₀ : Connector}

/-! ## Answers -/

/-- What a demand answers a call with. -/
def Demand.answerTo? (n : Nat) : Demand → Option (Except Failure (ClientCache.Answer Client))
  | .effect (.settled call outcome) => if call = n then some outcome else none
  | _ => none

/-- **What a call is answered with**, in order. -/
def answersTo (n : Nat) (demands : List Demand) : List (Except Failure (ClientCache.Answer Client)) :=
  demands.filterMap (Demand.answerTo? n)

/-- The answers among demands in two parts are those in the parts. -/
theorem answersTo_append (n : Nat) (demands more : List Demand) :
    answersTo n (demands ++ more) = answersTo n demands ++ answersTo n more := List.filterMap_append ..

/-- A call gets no answer when no effect settles it. -/
theorem answersTo_eq_nil {n : Nat} {demands : List Demand}
    (silent : ∀ outcome, .effect (.settled n outcome) ∉ demands) : answersTo n demands = [] := by
  refine List.filterMap_eq_nil_iff.2 fun d here => ?_
  unfold Demand.answerTo?
  split
  · next call outcome =>
    have other : call ≠ n := by
      rintro rfl
      exact silent outcome here
    rw [if_neg other]
  · rfl

/-- An effect of the cache answers a call with the same. -/
theorem answersTo_ofCacheEffect (c : Connector) (n : Nat)
    (e : ClientCache.Effect Context Client Failure) :
    answersTo n ((c.ofCacheEffect e).map .effect) = (e.outcomeOf? n).toList := by
  unfold ofCacheEffect
  split
  · rfl
  · rfl
  · rfl
  · next call count =>
    by_cases none : count = 0 <;> by_cases own : call = n <;>
      simp [none, own, answersTo, List.filterMap_cons, Demand.answerTo?, ClientCache.Effect.outcomeOf?]
  · next call outcome _ =>
    by_cases own : call = n <;> simp [own, answersTo, Demand.answerTo?, ClientCache.Effect.outcomeOf?]

/-- A step of the cache answers a call with the same. -/
theorem answersTo_withCache (c : Connector) (n : Nat) (turn : ClientCache.Turn Context Client Failure) :
    answersTo n ((c.withCache turn).2.map .effect) = ClientCache.outcomesOf n turn.2 := by
  rw [withCache]
  induction turn.2 with
  | nil => rfl
  | cons e es ih =>
    have first := answersTo_ofCacheEffect c n e
    simp only [answersTo, List.flatMap_cons, List.map_append, List.filterMap_append] at ih first ⊢
    rw [ih, first, ClientCache.outcomesOf, ClientCache.outcomesOf, List.filterMap_cons]
    cases e.outcomeOf? n <;> rfl

/-- **The calls of a connector are answered as those of its cache.** -/
theorem answersTo_asked (n : Nat) (c : Connector) (events : List Event) :
    answersTo n (c.asked events) = ClientCache.outcomesOf n (c.cache.asked (c.cacheInputs events)) := by
  induction events generalizing c with
  | nil => rfl
  | cons e l ih =>
    have first : answersTo n (c.handle e).2
        = ClientCache.outcomesOf n (c.cache.asked (c.cacheInput? e).toList) := by
      rcases c.handle_cases e with ⟨i, c', input, same⟩ | ⟨none, -, silent⟩
      · rw [input, same, answersTo_withCache]
        simp [ClientCache.asked, ClientCache.trace]
      · rw [none, answersTo_eq_nil fun outcome => silent (.settled n outcome) _ rfl]
        rfl
    have parts : answersTo n (c.asked (e :: l))
        = answersTo n (c.handle e).2 ++ answersTo n ((c.handle e).1.asked l) := List.filterMap_append ..
    rw [parts, first, ih, cacheInputs, ClientCache.asked_append, ClientCache.outcomesOf_append, cache_handle]

/-! ## What a rotation hands over -/

/-- **The clients that a rotation hands over**: those set aside, and then the stored ones that were built with other
credentials, in the order of the cache. -/
def superseded (c : Connector) (fingerprint : String) : List Client :=
  c.cache.detached
    ++ (c.cache.entries.entries.filter fun e => e.2.fingerprint ≠ fingerprint).map fun e => e.2.client

/-- The releases of these clients. -/
def disposals (c : Connector) (fingerprint : String) : List Nat :=
  List.range' c.cache.releases (c.superseded fingerprint).length

/-- The result that an event ends a release with. -/
def Event.resultOf? (r : Nat) : Event → Option (Except Failure Unit)
  | .input (.released n result) => if n = r then some result else none
  | _ => none

/-- The result of a release in the course of some events. -/
def result? (c : Connector) (r : Nat) (events : List Event) : Option (Except Failure Unit) :=
  c.cache.result? r (c.cacheInputs events)

/-- How often the cache is let run a continuation. -/
def resumes (events : List Event) : Nat :=
  events.countP fun e => match e with
    | .input .resume => true
    | _ => false

/-- The end of a release comes to the cache as it comes to the connector. -/
theorem eq_released {e : Event} {r : Nat} {result : Except Failure Unit}
    (h : c.cacheInput? e = some (.released r result)) : e = .input (.released r result) := by
  cases e with
  | verify => simp [cacheInput?] at h
  | input i =>
    cases i with
    | connect r | rotate b =>
      rw [cacheInput?] at h
      split at h <;> simp at h
    | released =>
      obtain ⟨rfl, rfl⟩ := ClientCache.Input.released.inj (Option.some.inj h)
      rfl
    | _ => simp [cacheInput?] at h

/-- The first end of a release comes to the cache as it comes to the connector. -/
theorem findSome?_cacheInputs (c : Connector) (r : Nat) (events : List Event) :
    (c.cacheInputs events).findSome? (ClientCache.Input.resultOf? r)
      = events.findSome? (Event.resultOf? r) := by
  induction events generalizing c with
  | nil => rfl
  | cons e l ih =>
    rw [cacheInputs, List.findSome?_append, ih, List.findSome?_cons]
    have first : (c.cacheInput? e).toList.findSome? (ClientCache.Input.resultOf? r) = e.resultOf? r := by
      cases e with
      | verify => rfl
      | input i =>
        cases i with
        | connect r' | rotate b =>
          rw [cacheInput?]
          split <;> rfl
        | released n result =>
          by_cases own : n = r <;> simp [cacheInput?, ClientCache.Input.resultOf?, Event.resultOf?, own]
        | _ => rfl
    rw [first]
    cases e.resultOf? r <;> rfl

/-- The continuations that run are those that the cache runs. -/
theorem resumes_cacheInputs (c : Connector) (events : List Event) :
    ClientCache.resumes (c.cacheInputs events) = resumes events := by
  induction events generalizing c with
  | nil => rfl
  | cons e l ih =>
    have first : ClientCache.resumes (c.cacheInput? e).toList = resumes [e] := by
      cases e with
      | verify => rfl
      | input i =>
        cases i with
        | connect r' | rotate b =>
          rw [cacheInput?]
          split <;> rfl
        | _ => rfl
    calc ClientCache.resumes (c.cacheInputs (e :: l))
        = ClientCache.resumes (c.cacheInput? e).toList
          + ClientCache.resumes ((c.handle e).1.cacheInputs l) := List.countP_append ..
      _ = resumes [e] + resumes l := by rw [first, ih]
      _ = resumes (e :: l) := by rw [resumes, resumes, resumes, ← List.countP_append, List.singleton_append]

/-- **Where there is a dispose hook**, releases end with what the surroundings report. -/
theorem result?_eq_findSome? (orderly : c.cache.Orderly) (hook : c.cache.disposes = true) (r : Nat)
    (events : List Event) : c.result? r events = events.findSome? (Event.resultOf? r) :=
  (ClientCache.result?_eq_findSome? orderly hook r _).trans (findSome?_cacheInputs c r events)

/-- A release fails only with a failure that the surroundings report. -/
theorem released_of_result? {r : Nat} {events : List Event} {failure : Failure}
    (failed : c.result? r events = some (.error failure)) : .input (.released r (.error failure)) ∈ events := by
  obtain ⟨before, rest, parts⟩ := List.append_of_mem (ClientCache.released_of_result? failed)
  obtain ⟨l, e, m, rfl, -, input⟩ := exists_event parts
  rw [eq_released input]
  exact List.mem_append_right _ List.mem_cons_self

/-- A release that the surroundings do not report on succeeds. -/
theorem eq_ok_of_result? {r : Nat} {events : List Event}
    (silent : ∀ result, .input (.released r result) ∉ events) {result : Except Failure Unit}
    (ended : c.result? r events = some result) : result = .ok () := by
  cases result with
  | ok => rfl
  | error failure => exact absurd (released_of_result? ended) (silent _)

/-! ## Calls that sweep -/

section
variable (orderly : c.cache.Orderly) (sweeping : c.cache.Sweeping) {n : Nat} {answer : ClientCache.Answer Client}
variable {releases : List Nat}
variable (here : c.cache.sweeps.get? n = some (.noted answer releases fun _ => none))
include orderly sweeping here

/-- A call that sweeps is not answered before all its releases have ended. -/
theorem answersTo_of_unended {events : List Event} (unended : ∃ r ∈ releases, c.result? r events = none) :
    answersTo n (c.asked events) = [] := by
  obtain ⟨r, listed, unended⟩ := unended
  rw [answersTo_asked]
  rcases ClientCache.swept_after orderly sweeping here (c.cacheInputs events) with ⟨-, none⟩ | ⟨-, all, -⟩
  · exact none
  · exact absurd unended (all r listed)

/-- It is answered with its verdict once they have and the continuations on the list have run. -/
theorem answersTo_of_ended {events later : List Event} (all : ∀ r ∈ releases, c.result? r events ≠ none)
    (enough : (c.after events).cache.jobs.length ≤ resumes later) :
    answersTo n (c.asked (events ++ later))
      = [ClientCache.verdict answer releases fun r => c.result? r events] := by
  rw [cache_after] at enough
  rw [answersTo_asked, cacheInputs_append]
  refine ClientCache.swept_turn orderly sweeping here all ?_
  rw [resumes_cacheInputs]
  exact enough

end

/-! ## All or nothing -/

/-- **A refused rotation**: the bundle is found misconfigured, and nothing else happens. -/
structure RefusesRotation (c : Connector) (failure : Failure) (turn : Turn) : Prop where
  /-- The failure is a misconfiguration. -/
  misconfigured : ∃ problem cause, failure = .configuration problem cause
  /-- The connector stays as it is, and refuses the call. -/
  refused : turn = (c, [.refused failure])

/-- **Two states of a connector differ in what calls wait for at most.** -/
structure Undisturbed (c c' : Connector) : Prop where
  /-- The credentials are the same. -/
  credentials : c'.credentials = c.credentials
  /-- The fingerprint is the same. -/
  fingerprint : c'.fingerprint = c.fingerprint
  /-- The stored clients are the same. -/
  entries : c'.cache.entries = c.cache.entries
  /-- The clients set aside are the same. -/
  detached : c'.cache.detached = c.cache.detached
  /-- The flights are the same. -/
  flights : c'.cache.flights = c.cache.flights

/-- **An adopted rotation** of a connector to new credentials, and what comes after it. -/
structure AdoptsRotation (c : Connector) (new : Credentials) (turn : Turn) : Prop where
  /-- The credentials are the new ones. -/
  credentials : turn.1.credentials = new
  /-- The fingerprint is that of the new ones. -/
  fingerprint : turn.1.fingerprint = new.fingerprint
  /-- The stored clients are those with the new fingerprint, in the same order. -/
  entries : turn.1.cache.entries.entries
    = c.cache.entries.entries.filter fun e => e.2.fingerprint = new.fingerprint
  /-- No client is set aside any more. -/
  detached : turn.1.cache.detached = []
  /-- The flights are the same. -/
  flights : turn.1.cache.flights = c.cache.flights
  /-- All others are handed to the dispose hook, if there is one, each once and in order. Nothing else happens. -/
  handed : turn.2 = if c.cache.disposes
    then ((c.superseded new.fingerprint).zipIdx c.cache.releases).map fun e => .dispose e.2 e.1
    else []
  /-- Whenever the release of one of them ends, and whether it fails or not, this disturbs nothing. -/
  undisturbed : ∀ events, ∀ r ∈ c.disposals new.fingerprint, ∀ result,
    Undisturbed (turn.1.after events) ((turn.1.after events).step (.released r result)).1 ∧
      ((turn.1.after events).step (.released r result)).2 = []
  /-- No client that has left the store comes back. -/
  expelled : ∀ key e, c.cache.entries.get? key = some e → e.fingerprint ≠ new.fingerprint →
    ∀ events key' e', (turn.1.after events).cache.entries.get? key' = some e' →
      e'.generation ≠ e.generation
  /-- With a dispose hook, releases end with what the surroundings report. -/
  reported : c.cache.disposes = true → ∀ r events,
    turn.1.result? r events = events.findSome? (Event.resultOf? r)
  /-- A release fails only when the surroundings report it. -/
  unfailing : ∀ r events, (∀ result, .input (.released r result) ∉ events) →
    ∀ result, turn.1.result? r events = some result → result = .ok ()
  /-- The call is not answered before all of them have ended. -/
  pending : ∀ events, (∃ r ∈ c.disposals new.fingerprint, turn.1.result? r events = none) →
    answersTo c.cache.calls (turn.1.asked events) = []
  /-- It is answered once they have and the continuations on the list have run: with the number of clients, or with the
  first failure in their order. -/
  answered : ∀ events later, (∀ r ∈ c.disposals new.fingerprint, turn.1.result? r events ≠ none) →
    (turn.1.after events).cache.jobs.length ≤ resumes later →
    answersTo c.cache.calls (turn.1.asked (events ++ later))
      = [ClientCache.verdict (.count (c.superseded new.fingerprint).length) (c.disposals new.fingerprint)
          fun r => turn.1.result? r events]

/-- An accepted bundle makes the cache sweep out what was built with other credentials. -/
theorem step_rotate_accepted {b : Bundle} {new : Credentials} (accepted : Credentials.parse c.method b = .ok new) :
    c.step (.rotate b) = withCache { c with credentials := new, fingerprint := new.fingerprint }
      (c.cache.step (.evictStale new.fingerprint)) := by
  simp only [step, rotate, accepted, Except.map, orRefuse, adopt, ClientCache.step]

/-- The dispose calls of a sweep reach the surroundings as they are. -/
theorem withCache_sweepEffects (c : Connector) (cache cache' : ClientCache Context Client Failure)
    (clients : List Client) : (c.withCache (cache', cache.sweepEffects clients)).2 = if cache.disposes
      then (clients.zipIdx cache.releases).map fun e => .dispose e.2 e.1 else [] := by
  rw [withCache, ClientCache.sweepEffects]
  split
  · rw [List.flatMap_map]
    exact List.map_eq_flatMap.symm
  · rfl

/-- The end of a release that no creation waits for disturbs nothing. -/
theorem undisturbed_of_released (sound : c.cache.Sound) {r : Nat}
    (own : ∀ g, c.cache.owners.get? r ≠ some (.creation g)) (result : Except Failure Unit) :
    Undisturbed c (c.step (.released r result)).1 ∧ (c.step (.released r result)).2 = [] := by
  have move := ClientCache.step_move sound (.released r result)
  obtain ⟨entries, detached, flights, -, silent⟩ := move.ends_quietly own
  refine ⟨⟨rfl, rfl, entries, detached, flights⟩, ?_⟩
  have effects : (c.step (.released r result)).2
      = (c.cache.step (.released r result)).2.flatMap c.ofCacheEffect := rfl
  rw [effects, silent]
  rfl

/-- **Accepted credentials are adopted**, whatever the connector is doing. -/
theorem adoptsRotation {disposes : Bool} (fresh : c₀.cache = .empty disposes) {events : List Event}
    (reached : c = c₀.after events) {b : Bundle} {new : Credentials}
    (accepted : Credentials.parse c.method b = .ok new) :
    c.AdoptsRotation new (c.step (.rotate b)) := by
  have cache : c.cache = (ClientCache.empty disposes).after (c₀.cacheInputs events) := by
    rw [reached, cache_after, fresh]
  have orderly : c.cache.Orderly := by
    rw [cache]
    exact ClientCache.orderly_after disposes _
  have sweeping : c.cache.Sweeping := by
    rw [cache]
    exact ClientCache.sweeping_after disposes _
  have expels : ∀ key e, c.cache.entries.get? key = some e → e.fingerprint ≠ new.fingerprint →
      (c.cache.step (.evictStale new.fingerprint)).1.Expelled e.generation := by
    rw [cache]
    exact fun key e => ClientCache.expelled_of_stale disposes _
  have orderly' := orderly.step (.evictStale new.fingerprint)
  have sweeping' : (c.cache.step (.evictStale new.fingerprint)).1.Sweeping :=
    sweeping.after orderly [.evictStale new.fingerprint]
  have move := ClientCache.step_move orderly.sound (.evictStale new.fingerprint)
  have hook' := move.disposes
  rw [step_rotate_accepted accepted]
  generalize c.cache.step (.evictStale new.fingerprint) = turn at *
  obtain ⟨cache', es⟩ := turn
  cases move with
  | idle nothing => exact nothing.elim
  | @evicted _ clients swept =>
    have clients_eq : clients = c.superseded new.fingerprint := by
      rw [swept, superseded, Table.values, Table.entries_filter, List.map_map]
      rfl
    subst clients_eq
    -- the call sweeps, and waits for the releases that it has started
    have here := Table.get?_insert_self c.cache.sweeps c.cache.calls
      (ClientCache.Sweep.noted (.count (c.superseded new.fingerprint).length) (c.disposals new.fingerprint)
        fun _ => none)
    have owned : ∀ r ∈ c.disposals new.fingerprint,
        (c.cache.sweepOwners c.cache.calls (c.superseded new.fingerprint).length).get? r
          = some (.sweep c.cache.calls) := by
      intro r listed
      rw [ClientCache.get?_sweepOwners, if_pos (List.mem_range'_1.1 listed)]
    exact {
      credentials := rfl
      fingerprint := rfl
      entries := rfl
      detached := rfl
      flights := rfl
      handed := withCache_sweepEffects _ _ _ _
      undisturbed := by
        intro later r listed result
        refine undisturbed_of_released ?_ (fun g other => ?_) result
        · rw [cache_after]
          exact orderly'.sound.after _
        · rw [cache_after] at other
          cases ClientCache.owner_after orderly'.sound (owned r listed) _ other
      expelled := by
        intro key e stored stale later key' e' stored'
        rw [cache_after] at stored'
        exact ((expels key e stored stale).after orderly'.sound _).unstored key' e' stored'
      reported := by
        intro hook r later
        refine result?_eq_findSome? ?_ ?_ r later
        · exact orderly'
        · exact hook'.trans hook
      unfailing := fun r later silent result => eq_ok_of_result? silent
      pending := by
        intro later unended
        refine answersTo_of_unended ?_ ?_ here unended
        exacts [orderly', sweeping']
      answered := by
        intro later rest all enough
        refine answersTo_of_ended ?_ ?_ here all enough
        exacts [orderly', sweeping'] }

/-- **A bundle that is not accepted is refused**, and nothing happens. -/
theorem refusesRotation {b : Bundle} {failure : Failure} (refused : Credentials.parse c.method b = .error failure) :
    c.RefusesRotation failure (c.step (.rotate b)) := by
  refine ⟨(Credentials.configuration_of_parse refused).imp fun _ same => ⟨none, same⟩, ?_⟩
  simp only [step, rotate, refused, Except.map, orRefuse]

/-- **All or nothing.** However a connector has come about, and whatever has happened to it: a rotation to a bundle that
is not accepted is refused, and changes nothing; a rotation to one that is accepted adopts the credentials at once,
and whatever becomes of the releases does not undo that. -/
theorem rotation (obtained : c₀.Obtained) (events : List Event) (b : Bundle) :
    match Credentials.parse (c₀.after events).method b with
    | .error failure => (c₀.after events).RefusesRotation failure ((c₀.after events).step (.rotate b))
    | .ok new => (c₀.after events).AdoptsRotation new ((c₀.after events).step (.rotate b)) := by
  obtain ⟨type, settings, logger, made⟩ := obtained.make
  cases accepted : Credentials.parse (c₀.after events).method b with
  | error failure => exact refusesRotation accepted
  | ok new => exact adoptsRotation (proper_of_make made).2 rfl accepted

/-- A session is made and stored. -/
def oneSession : List Event :=
  [.input (.connect none), .input (.created 1 (.ok (.extension ⟨1, none, none⟩)))]

/-- With a session in store, another token is adopted, and a bundle without a token is refused. -/
theorem rotation_sessions : ∃ c₀ new failure, Obtained c₀ ∧
    (c₀.after oneSession).AdoptsRotation new
      ((c₀.after oneSession).step (.rotate (.ofList [("token", .value (.str "t"))]))) ∧
    (c₀.after oneSession).RefusesRotation failure ((c₀.after oneSession).step (.rotate ∅)) := by
  obtain ⟨c₀, made⟩ : ∃ c₀, make? sessions sessionsSettings .silent = .ok c₀ := ⟨_, rfl⟩
  have method : (c₀.after oneSession).method = sessions.spec.methods.head (by simp [sessions]) := by
    rw [(c₀.keeps_after oneSession).method]
    obtain rfl := Except.ok.inj made
    rfl
  obtain ⟨new, accepted⟩ : ∃ new, Credentials.parse (c₀.after oneSession).method
      (.ofList [("token", .value (.str "t"))]) = .ok new := by
    rw [method]
    exact ⟨_, rfl⟩
  obtain ⟨failure, refused⟩ : ∃ failure, Credentials.parse (c₀.after oneSession).method ∅ = .error failure := by
    rw [method]
    exact ⟨_, rfl⟩
  have adopts := rotation (.made made) oneSession (.ofList [("token", .value (.str "t"))])
  have refuses := rotation (.made made) oneSession ∅
  rw [accepted] at adopts
  rw [refused] at refuses
  exact ⟨c₀, new, failure, .made made, adopts, refuses⟩

end ServiceAccess.Connector
