import ServiceAccess.Connector.Session
import ServiceAccess.Connector.Verification
import ServiceAccess.Proofs.ClientCache.Run

/-! # Runs of a connector

Around a connector its steps and verifications happen in any order. A verification is a routine of its
own that leaves the connector as it is.

* **`handle`**: what the connector does then, and what it asks for.
* **`Keeps`**: a connector never changes what it is bound to. Only its credentials, their fingerprint and
  its cache change.
* **`cacheInputs`**: the run of the cache inside a run of the connector. `cache_after` and
  `mem_asked_iff` say that this is what the connector's clients and answers come from. -/

namespace ServiceAccess.Connector

/-! ## Events -/

/-- What can happen around a connector. -/
inductive Event where
  /-- A call that goes through the client cache, or the end of something that the cache asked for. -/
  | input (i : Input)
  /-- The credentials are to be verified. -/
  | verify (resourceType resourceId : Option String)

/-- What a connector asks for when something happens around it. -/
inductive Demand where
  /-- Something that a step asks for. -/
  | effect (e : Effect)
  /-- Run a verification. -/
  | verification (r : Routine (List String))

/-- What a connector does when something happens around it. -/
def handle (c : Connector) : Event → Connector × List Demand
  | .input i => ((c.step i).1, (c.step i).2.map .effect)
  | .verify resourceType resourceId => (c, [.verification (c.verify resourceType resourceId)])

/-- The connector after some events. -/
abbrev after (c : Connector) (events : List Event) : Connector := Run.after handle c events

/-- What the connector asks for in the course of some events. -/
abbrev asked (c : Connector) (events : List Event) : List Demand :=
  Run.effects (Run.trace handle c events)

/-- What a connector asks for in two parts of a run is what it asks for in the parts. -/
theorem asked_append (c : Connector) (l m : List Event) : c.asked (l ++ m) = c.asked l ++ (c.after l).asked m := by
  rw [asked, Run.trace_append, Run.effects_append]

/-! ## What stays -/

/-- **A connector that is bound to the same**: type, auth method, resource type and target. -/
structure Keeps (c c' : Connector) : Prop where
  /-- The connector type. -/
  type : c'.type = c.type
  /-- The auth method. -/
  method : c'.method = c.method
  /-- The resource type. -/
  resourceType : c'.resourceType = c.resourceType
  /-- The target. -/
  resource : c'.resource = c.resource

theorem Keeps.refl (c : Connector) : c.Keeps c := ⟨rfl, rfl, rfl, rfl⟩

theorem Keeps.trans {c₁ c₂ c₃ : Connector} (h : c₁.Keeps c₂) (h' : c₂.Keeps c₃) : c₁.Keeps c₃ :=
  ⟨h'.type.trans h.type, h'.method.trans h.method, h'.resourceType.trans h.resourceType,
    h'.resource.trans h.resource⟩

/-- A call means the same target for a connector that is bound to the same. -/
theorem Keeps.target {c c' : Connector} (h : c.Keeps c') (r : Option String) :
    c'.target r = c.target r := by
  simp only [Connector.target, h.type, h.resourceType, h.resource]

/-- No event binds the connector to anything else. -/
theorem keeps_handle (c : Connector) (e : Event) : c.Keeps (c.handle e).1 := by
  cases e with
  | verify => exact .refl c
  | input i =>
    cases i with
    | connect r =>
      simp only [handle, step, connect]
      cases c.target r <;> exact ⟨rfl, rfl, rfl, rfl⟩
    | rotate b =>
      simp only [handle, step, rotate]
      cases Credentials.parse c.method b <;> exact ⟨rfl, rfl, rfl, rfl⟩
    | _ => exact ⟨rfl, rfl, rfl, rfl⟩

/-- **No run binds the connector to anything else.** -/
theorem keeps_after (c : Connector) (events : List Event) : c.Keeps (c.after events) :=
  Run.after_induction (P := c.Keeps) handle (.refl c) (fun c' e h => h.trans (c'.keeps_handle e)) events

/-! ## The run of the cache -/

/-- The key of a target. -/
def keyOf (resource : Option ResourceId) : String :=
  (resource.map ResourceId.canonicalId).getD implicitKey

/-- What an event is to the cache: refused calls and verifications are nothing to it. -/
def cacheInput? (c : Connector) : Event → Option (ClientCache.Input Context Client Failure)
  | .input (.connect r) => match c.target r with
    | .ok resource => some (.acquire (keyOf resource) c.fingerprint (c.context resource))
    | .error _ => none
  | .input (.rotate b) => match Credentials.parse c.method b with
    | .ok credentials => some (.evictStale credentials.fingerprint)
    | .error _ => none
  | .input .disconnect => some .clear
  | .input (.created generation result) => some (.created generation result)
  | .input (.released release result) => some (.released release result)
  | .input .resume => some .resume
  | .verify .. => none

/-- The run of the cache inside a run of the connector. -/
def cacheInputs (c : Connector) : List Event → List (ClientCache.Input Context Client Failure)
  | [] => []
  | e :: l => (c.cacheInput? e).toList ++ (c.handle e).1.cacheInputs l

/-- What an effect of the cache is to the surroundings of the connector; reports are rewritten. -/
def Effect.ofCache? : ClientCache.Effect Context Client Failure → Option Effect
  | .note _ => none
  | .create generation context => some (.create generation context)
  | .dispose release client => some (.dispose release client)
  | .settled call outcome => some (.settled call outcome)

/-- An effect of the cache other than a report reaches the surroundings once and as it is. -/
theorem mem_ofCacheEffect (c : Connector) {e e' : ClientCache.Effect Context Client Failure}
    {E : Effect} (passes : Effect.ofCache? e = some E) : E ∈ c.ofCacheEffect e' ↔ e' = e := by
  cases e <;> simp only [Effect.ofCache?, Option.some.injEq, reduceCtorEq] at passes <;> subst passes
  all_goals
    unfold ofCacheEffect
    split <;> simp [eq_comm]

/-- A step of the cache asks the surroundings for what the cache asks for. -/
theorem mem_withCache (c : Connector) (turn : ClientCache.Turn Context Client Failure)
    {e : ClientCache.Effect Context Client Failure} {E : Effect}
    (passes : Effect.ofCache? e = some E) : E ∈ (c.withCache turn).2 ↔ e ∈ turn.2 := by
  simp only [withCache, List.mem_flatMap, c.mem_ofCacheEffect passes, exists_eq_right]

/-- An event is a step of the cache, or nothing to it. -/
theorem handle_cases (c : Connector) (e : Event) :
    (∃ i, ∃ c' : Connector, c.cacheInput? e = some i ∧ c.handle e
      = ((c'.withCache (c.cache.step i)).1, (c'.withCache (c.cache.step i)).2.map .effect)) ∨
    (c.cacheInput? e = none ∧ (c.handle e).1 = c ∧ ∀ e' E, Effect.ofCache? e' = some E →
      .effect E ∉ (c.handle e).2) := by
  -- a refused call asks the surroundings for nothing but the refusal
  have refusal (failure : Failure) : ∀ e' E, Effect.ofCache? e' = some E →
      Demand.effect E ∉ [Demand.effect (.refused failure)] := by
    rintro e' E passes here
    obtain rfl : E = .refused failure := by simpa using here
    cases e' <;> simp [Effect.ofCache?] at passes
  cases e with
  | verify => exact .inr ⟨rfl, rfl, by simp [handle]⟩
  | input i =>
    cases i with
    | connect r =>
      simp only [handle, step, connect, cacheInput?]
      cases c.target r with
      | error failure => exact .inr ⟨rfl, rfl, refusal failure⟩
      | ok resource => exact .inl ⟨_, c, rfl, rfl⟩
    | rotate b =>
      simp only [handle, step, rotate, cacheInput?]
      cases Credentials.parse c.method b with
      | error failure => exact .inr ⟨rfl, rfl, refusal failure⟩
      | ok credentials =>
        exact .inl ⟨_, { c with credentials := credentials, fingerprint := credentials.fingerprint },
          rfl, rfl⟩
    | _ => exact .inl ⟨_, c, rfl, rfl⟩

/-- The cache after an event is the cache after what the event is to it. -/
theorem cache_handle (c : Connector) (e : Event) :
    (c.handle e).1.cache = c.cache.after (c.cacheInput? e).toList := by
  rcases c.handle_cases e with ⟨i, c', input, same⟩ | ⟨none, same, -⟩
  · rw [input, same]
    rfl
  · rw [none, same]
    rfl

/-- **The cache of a connector runs on its own.** -/
theorem cache_after (c : Connector) (events : List Event) :
    (c.after events).cache = c.cache.after (c.cacheInputs events) := by
  induction events generalizing c with
  | nil => rfl
  | cons e l ih =>
    rw [cacheInputs, ClientCache.after, Run.after_append]
    exact (ih (c.handle e).1).trans (by rw [cache_handle])

/-- The run of the cache in the course of more events goes on. -/
theorem cacheInputs_append (c : Connector) (l m : List Event) :
    c.cacheInputs (l ++ m) = c.cacheInputs l ++ (c.after l).cacheInputs m := by
  induction l generalizing c with
  | nil => rfl
  | cons e l ih =>
    rw [List.cons_append, cacheInputs, cacheInputs, ih, List.append_assoc]
    rfl

/-- One more event adds what it is to the cache. -/
theorem cacheInputs_concat (c : Connector) (l : List Event) (e : Event) :
    c.cacheInputs (l ++ [e]) = c.cacheInputs l ++ ((c.after l).cacheInput? e).toList := by
  rw [cacheInputs_append, cacheInputs, cacheInputs, List.append_nil]

/-- **The surroundings are asked for what the cache asks for**, reports apart. -/
theorem mem_asked_iff (e' : ClientCache.Effect Context Client Failure) {E : Effect}
    (passes : Effect.ofCache? e' = some E) (c : Connector) (events : List Event) :
    .effect E ∈ c.asked events ↔ e' ∈ c.cache.asked (c.cacheInputs events) := by
  induction events generalizing c with
  | nil => simp [asked, ClientCache.asked, ClientCache.trace, cacheInputs]
  | cons e l ih =>
    -- the induction leaves the first event alone to be compared
    have first : .effect E ∈ (c.handle e).2 ↔ e' ∈ c.cache.asked (c.cacheInput? e).toList := by
      rcases c.handle_cases e with ⟨i, c', input, same⟩ | ⟨none, -, silent⟩
      · rw [input, same]
        simp [mem_withCache _ _ passes, ClientCache.asked, ClientCache.trace]
      · rw [none]
        simp [silent e' E passes, ClientCache.asked, ClientCache.trace]
    have parts : c.cache.asked (c.cacheInputs (e :: l)) = c.cache.asked (c.cacheInput? e).toList
        ++ (c.handle e).1.cache.asked ((c.handle e).1.cacheInputs l) := by
      rw [cacheInputs, ClientCache.asked, ClientCache.trace, Run.trace_append, Run.effects_append,
        cache_handle]
    rw [asked, Run.trace_cons, Run.effects_cons, parts, List.mem_append, List.mem_append, first,
      ← ih (c.handle e).1]

/-! ## Back to events -/

/-- Every input of the cache belongs to an event. -/
theorem exists_event {c : Connector} {events : List Event}
    {L M : List (ClientCache.Input Context Client Failure)}
    {i : ClientCache.Input Context Client Failure} (h : c.cacheInputs events = L ++ i :: M) :
    ∃ l e m, events = l ++ e :: m ∧ c.cacheInputs l = L ∧ (c.after l).cacheInput? e = some i := by
  induction events generalizing c L with
  | nil => simp [cacheInputs] at h
  | cons e rest ih =>
    rw [cacheInputs] at h
    cases input : c.cacheInput? e with
    | none =>
      rw [input] at h
      -- this event is nothing to the cache, so the input is that of a later one
      obtain ⟨l, e', m, rfl, first, here⟩ := ih h
      exact ⟨e :: l, e', m, rfl, by rw [cacheInputs, input, first]; rfl, here⟩
    | some j =>
      simp only [input, Option.toList_some, List.cons_append, List.nil_append] at h
      cases L with
      | nil =>
        obtain ⟨rfl, -⟩ := List.cons.inj h
        exact ⟨[], e, rest, rfl, rfl, input⟩
      | cons k L =>
        simp only [List.cons_append, List.cons.injEq] at h
        obtain ⟨rfl, h⟩ := h
        obtain ⟨l, e', m, rfl, first, here⟩ := ih h
        exact ⟨e :: l, e', m, rfl, by rw [cacheInputs, input, first]; rfl, here⟩

/-- Every part of the run of the cache belongs to a part of the run. -/
theorem exists_split {c : Connector} {events : List Event}
    {L M : List (ClientCache.Input Context Client Failure)} (h : c.cacheInputs events = L ++ M) :
    ∃ l m, events = l ++ m ∧ c.cacheInputs l = L ∧ (c.after l).cacheInputs m = M := by
  cases M with
  | nil =>
    rw [List.append_nil] at h
    exact ⟨events, [], (List.append_nil _).symm, h, rfl⟩
  | cons i M =>
    obtain ⟨l, e, m, rfl, first, -⟩ := exists_event h
    rw [cacheInputs_append, first] at h
    exact ⟨l, e :: m, rfl, first, List.append_cancel_left h⟩

/-- A client is wanted from the cache for the target of a call, with the credentials of the moment. -/
theorem eq_connect {c : Connector} {e : Event} {key fp : String} {context : Context}
    (h : c.cacheInput? e = some (.acquire key fp context)) : ∃ resource r,
      e = .input (.connect r) ∧ c.target r = .ok resource ∧ key = keyOf resource ∧
      fp = c.fingerprint ∧ context = c.context resource := by
  cases e with
  | verify => simp [cacheInput?] at h
  | input i =>
    cases i with
    | connect r =>
      rw [cacheInput?] at h
      split at h
      · next resource target =>
        obtain ⟨rfl, rfl, rfl⟩ := ClientCache.Input.acquire.inj (Option.some.inj h)
        exact ⟨resource, r, rfl, target, rfl, rfl, rfl⟩
      · simp at h
    | rotate b =>
      rw [cacheInput?] at h
      split at h <;> simp at h
    | _ => simp [cacheInput?] at h

/-- The end of a create call comes to the cache as it comes to the connector. -/
theorem eq_created {c : Connector} {e : Event} {g : Nat} {result : Except Failure Client}
    (h : c.cacheInput? e = some (.created g result)) : e = .input (.created g result) := by
  cases e with
  | verify => simp [cacheInput?] at h
  | input i =>
    cases i with
    | connect r | rotate b =>
      rw [cacheInput?] at h
      split at h <;> simp at h
    | created =>
      obtain ⟨rfl, rfl⟩ := ClientCache.Input.created.inj (Option.some.inj h)
      rfl
    | _ => simp [cacheInput?] at h

end ServiceAccess.Connector
