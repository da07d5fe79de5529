import ServiceAccess.Proofs.ClientCache.Handover
import ServiceAccess.Proofs.Connector.Provenance

/-! # Calls after a disconnect

A connect call that is made after a disconnect call is meant never to get a client that this hands to the
provider to be released. Until the disconnect call sweeps, clients and handshakes from before it stay in
reach.

* **`SparesLater`**: what disconnect calls are meant to do in a run.
* **`not_sparesLater_hurried`**: a call that is made right after a disconnect call is not spared.
* **`sparesLater_iff`**: disconnect calls do what they are meant to in a run exactly when no later call gets a
  client that is handed over by one of the ways of `ClientCache.Caught`, and in all runs of a new connector
  exactly when it can make no call at all or its provider releases nothing. -/

namespace ServiceAccess.Connector

/-! ## Disconnect calls and later calls -/

/-- **A call hands a client to the provider** to be released. -/
def HandsOver (c : Connector) (events : List Event) (n : Nat) (x : Client) : Prop :=
  ∃ l e r, l ++ [e] <+: events ∧ .effect (.dispose r x) ∈ ((c.after l).handle e).2 ∧
    (c.after (l ++ [e])).cache.owners.get? r = some (.sweep n)

/-- **A later call gets a client**: after the disconnect call `n`, in the state `s`, a call for a target is
made that is answered with the client in the course of the run. -/
def LaterGets (c : Connector) (events : List Event) (n : Nat) (s : Connector)
    (resource : Option ResourceId) (x : Client) : Prop :=
  ∃ before mid r rest, events = before ++ .input .disconnect :: mid ++ .input (.connect r) :: rest ∧
    n = (c.after before).cache.calls ∧ s = c.after (before ++ .input .disconnect :: mid) ∧
    s.target r = .ok resource ∧
    .effect (.settled s.cache.calls (.ok (.client x))) ∈ s.asked (.input (.connect r) :: rest)

/-- **A run spares later calls.** No call that is made after a disconnect call gets a client which the
disconnect call hands over. -/
def SparesLater (c : Connector) (events : List Event) : Prop :=
  ∀ n s resource x, c.LaterGets events n s resource x → ¬ c.HandsOver events n x

variable {c s : Connector} {events : List Event} {n : Nat} {resource : Option ResourceId} {x : Client}

/-- A call hands over what its call to the cache hands over. -/
theorem handsOver_iff : c.HandsOver events n x ↔ c.cache.HandsOver (c.cacheInputs events) n x := by
  constructor
  · rintro ⟨l, e, r, ⟨m, rfl⟩, asked, owned⟩
    rcases (c.after l).handle_cases e with ⟨i, c', input, same⟩ | ⟨-, -, silent⟩
    · have inputs : c.cacheInputs (l ++ [e]) = c.cacheInputs l ++ [i] := by
        rw [cacheInputs_concat, input]
        rfl
      refine ⟨c.cacheInputs l, i, r, ?_, ?_, ?_⟩
      · rw [cacheInputs_append, inputs]
        exact List.prefix_append ..
      · rw [same, List.mem_map] at asked
        obtain ⟨E, here, rfl⟩ : ∃ E, E ∈ (c'.withCache ((c.after l).cache.step i)).2 ∧
          E = .dispose r x := by simpa using asked
        rw [← cache_after]
        exact (mem_withCache c' _ rfl).1 here
      · rwa [← inputs, ← cache_after]
    · exact absurd asked (silent (.dispose r x) _ rfl)
  · rintro ⟨L, i, r, ⟨M, part⟩, asked, owned⟩
    rw [List.append_assoc, List.singleton_append] at part
    obtain ⟨l, e, m, rfl, rfl, input⟩ := exists_event part.symm
    have inputs : c.cacheInputs (l ++ [e]) = c.cacheInputs l ++ [i] := by
      rw [cacheInputs_concat, input]
      rfl
    refine ⟨l, e, r, by simp, ?_, by rwa [cache_after, inputs]⟩
    rcases (c.after l).handle_cases e with ⟨j, c', input', same⟩ | ⟨none, -, -⟩
    · obtain rfl := Option.some.inj (input.symm.trans input')
      rw [same, List.mem_map]
      rw [← cache_after] at asked
      exact ⟨.dispose r x, (mem_withCache c' _ rfl).2 asked, rfl⟩
    · simp [input] at none

/-- What a later call is to the cache. -/
theorem LaterGets.inputs (h : c.LaterGets events n s resource x) : ∃ before mid rest,
    c.cacheInputs events = before ++ .clear :: mid
      ++ .acquire (keyOf resource) s.fingerprint (s.context resource) :: rest ∧
    n = (c.cache.after before).calls ∧ s.cache = c.cache.after (before ++ .clear :: mid) ∧
    .settled s.cache.calls (.ok (.client x)) ∈ s.cache.asked
      (.acquire (keyOf resource) s.fingerprint (s.context resource) :: rest) := by
  obtain ⟨before, mid, r, rest, rfl, rfl, rfl, target, answered⟩ := h
  obtain ⟨-, -, call⟩ := connect_accepted target
  have first : c.cacheInputs (before ++ .input .disconnect :: mid) = c.cacheInputs before ++ .clear
      :: ((c.after before).handle (.input .disconnect)).1.cacheInputs mid := cacheInputs_append ..
  rw [mem_asked_iff (.settled _ (.ok (.client x))) rfl, cacheInputs, call] at answered
  refine ⟨_, _, _, ?_, by rw [cache_after], by rw [cache_after, first], answered⟩
  rw [cacheInputs_append, first, cacheInputs, call]
  rfl

/-- Every later call that gets a client which a disconnect call hands over is caught by it in one of the ways
of `ClientCache.Caught`. -/
theorem LaterGets.caught {type : ConnectorType} {settings : ConnectorSettings} {logger : Logger}
    (made : make? type settings logger = .ok c) (later : c.LaterGets events n s resource x)
    (handed : c.HandsOver events n x) :
    ClientCache.Caught c.cache (c.cacheInputs events) s.cache n (keyOf resource) s.fingerprint x := by
  rw [handsOver_iff] at handed
  obtain ⟨before, mid, rest, parts, rfl, cache, answered⟩ := later.inputs
  rw [parts] at handed ⊢
  rw [cache] at answered ⊢
  rw [(proper_of_make made).2] at answered handed ⊢
  exact ClientCache.caught_of_handed _ answered handed

/-! ## Hurried calls -/

/-- A client is stored, and then a disconnect call and another call are made at once. -/
def hurried (r : Option String) (x : Client) : List Event :=
  [.input (.connect r), .input (.created 1 (.ok x)), .input .resume, .input .disconnect]
    ++ [.input (.connect r), .input .resume]

/-- **A call that is made right after a disconnect call is not spared.** -/
theorem not_sparesLater_hurried {r : Option String} (new : c.cache = .empty true)
    (target : c.target r = .ok resource) (x : Client) : ¬ c.SparesLater (hurried r x) := by
  intro spares
  obtain ⟨s, same⟩ : ∃ s, s = c.after [.input (.connect r), .input (.created 1 (.ok x)), .input .resume,
    .input .disconnect] := ⟨_, rfl⟩
  have target' : s.target r = .ok resource := by rw [same, (c.keeps_after _).target, target]
  obtain ⟨-, fp, first⟩ := connect_accepted target
  obtain ⟨-, -, second⟩ := connect_accepted target'
  have fp' : s.fingerprint = c.fingerprint := by
    rw [same]
    exact fp
  -- both calls want a client for the same key and fingerprint from the cache
  have stored : c.cacheInputs [.input (.connect r), .input (.created 1 (.ok x)), .input .resume]
      = [.acquire (keyOf resource) c.fingerprint (c.context resource), .created 1 (.ok x),
        .resume] := by
    rw [cacheInputs, first]
    rfl
  have early : c.cacheInputs [.input (.connect r), .input (.created 1 (.ok x)), .input .resume,
      .input .disconnect] = [.acquire (keyOf resource) c.fingerprint (c.context resource),
        .created 1 (.ok x), .resume, .clear] := by
    rw [cacheInputs, first]
    rfl
  have late : s.cacheInputs [.input (.connect r), .input .resume]
      = [.acquire (keyOf resource) c.fingerprint (s.context resource), .resume] := by
    rw [cacheInputs, second, fp']
    rfl
  obtain ⟨answered, handed⟩ := ClientCache.handsOver_hit (ρ := Context) (ε := Failure)
    (keyOf resource) c.fingerprint (c.context resource) (s.context resource) x
  refine spares _ s resource x ⟨[.input (.connect r), .input (.created 1 (.ok x)), .input .resume], [],
    r, [.input .resume], rfl, rfl, same, target', ?_⟩ ?_
  · rw [mem_asked_iff (.settled _ (.ok (.client x))) rfl, late, same, cache_after, early, new, ← same]
    exact answered
  · rw [handsOver_iff, hurried, cacheInputs_append, early, ← same, late, cache_after, stored, new]
    exact handed

/-- A new connector spares later calls in all its runs exactly when it can make no call at all or its provider
releases nothing. -/
theorem sparesLater_all_iff {type : ConnectorType} {settings : ConnectorSettings} {logger : Logger}
    (made : make? type settings logger = .ok c) : (∀ events, c.SparesLater events) ↔
      (∀ r resource, c.target r ≠ .ok resource) ∨ type.provider.disconnect = none := by
  obtain ⟨-, new⟩ := proper_of_make made
  constructor
  · intro spares
    rw [or_iff_not_imp_left]
    intro able
    simp only [not_forall, not_not] at able
    obtain ⟨r, resource, target⟩ := able
    by_contra releases
    rw [Option.isSome_iff_ne_none.2 releases] at new
    exact not_sparesLater_hurried new target (.extension ⟨1, none, none⟩) (spares _)
  · rintro (unable | idle) events n s resource x ⟨before, mid, r, rest, -, -, rfl, target, -⟩ handed
    · rw [(c.keeps_after _).target] at target
      exact unable r resource target
    · rw [handsOver_iff, new, idle] at handed
      exact Bool.noConfusion handed.hook

/-- **Spared calls, exactly.** A run of a new connector spares later calls exactly when none of them gets a
client that is handed over by one of the ways in which a disconnect call can catch it. And there is such a run
of every new connector that can make a call at all and whose provider releases something. -/
theorem sparesLater_iff {type : ConnectorType} {settings : ConnectorSettings} {logger : Logger}
    (made : make? type settings logger = .ok c) :
    (∀ events, c.SparesLater events ↔ ∀ n s resource x, c.LaterGets events n s resource x →
      c.HandsOver events n x →
      ¬ ClientCache.Caught c.cache (c.cacheInputs events) s.cache n (keyOf resource) s.fingerprint x) ∧
    ((∀ events, c.SparesLater events) ↔
      (∀ r resource, c.target r ≠ .ok resource) ∨ type.provider.disconnect = none) := by
  refine ⟨fun events => ⟨fun spares n s resource x later handed _ => ?_,
    fun free n s resource x later handed => ?_⟩, sparesLater_all_iff made⟩
  · exact spares n s resource x later handed
  · exact free n s resource x later handed (later.caught made handed)

/-! ## A service with handshakes to release -/

/-- A service whose clients are released. -/
def sessions : ConnectorType where
  spec := {
    id := "sessions"
    name := "Sessions"
    description := "Keeps a session for every client."
    methods := [{
      id := "token"
      name := "Token"
      description := "Takes a token."
      schema := { fields := .ofList [("token", .secretText none)], additional := none } }]
    resourceTypes := [⟨"account", "Account", none, false, false, ["token"]⟩]
    supportsAutoConfiguration := false }
  resolvers := ∅
  provider := {
    connect := fun _ => pure (.extension ⟨1, none, none⟩)
    verify := fun _ _ => pure (.verified [])
    disconnect := some fun _ => pure ()
    configureLocal := none
    autoConfigure := none }

/-- Settings with a token. -/
def sessionsSettings : ConnectorSettings where
  method := "token"
  bundle := .ofList [("token", .value (.str "s"))]
  resourceType := none
  resourceId := none
  name := none

/-- A service that releases clients does not spare such a call. -/
theorem not_sparesLater_stored : ∃ c, make? sessions sessionsSettings .silent = .ok c ∧
    ¬ c.SparesLater (hurried none (.extension ⟨1, none, none⟩)) := by
  have made : make? sessions sessionsSettings .silent = .ok _ := rfl
  exact ⟨_, made, not_sparesLater_hurried (proper_of_make made).2 rfl _⟩

/-- The disconnect call catches it. -/
theorem caught_stored : ∃ c, make? sessions sessionsSettings .silent = .ok c ∧
    ∃ n s resource x, c.LaterGets (hurried none (.extension ⟨1, none, none⟩)) n s resource x ∧
      c.HandsOver (hurried none (.extension ⟨1, none, none⟩)) n x ∧
      ClientCache.Caught c.cache (c.cacheInputs (hurried none (.extension ⟨1, none, none⟩))) s.cache n
        (keyOf resource) s.fingerprint x := by
  have made : make? sessions sessionsSettings .silent = .ok _ := rfl
  refine ⟨_, made, ?_⟩
  have hurries : ¬ SparesLater _ (hurried none (.extension ⟨1, none, none⟩)) :=
    not_sparesLater_hurried (proper_of_make made).2 rfl _
  rw [(sparesLater_iff made).1] at hurries
  simpa only [not_forall, exists_prop, not_not] using hurries

end ServiceAccess.Connector
