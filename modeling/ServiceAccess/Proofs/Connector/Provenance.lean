import ServiceAccess.Proofs.ClientCache.Provenance
import ServiceAccess.Proofs.Connector.Run
import ServiceAccess.Proofs.Credentials.Accepted
import ServiceAccess.Provider.Docker

/-! # Where the clients of a connector come from

A connector is meant to answer a call with a client that was made for the target of the call and with the
credentials of that moment. Its cache tells credentials apart by their fingerprint, which shows both
infinities in the same way.

* **`ServesCurrent`**: what a connector is meant to do.
* **`servesCurrent_iff`**: a new connector does so exactly when it can make no call at all or its auth
  method takes arbitrary values as secrets only. Otherwise a rotation from one infinity to the other goes
  unnoticed (`not_servesCurrent_infinities`). -/

namespace ServiceAccess

/-- Different texts with the same fingerprint. -/
def Credentials.Collide (a b : Credentials) : Prop :=
  a.fingerprintText ≠ b.fingerprintText ∧ a.fingerprint = b.fingerprint

namespace Connector

/-! ## Handshakes -/

/-- A handshake is outstanding: it has been asked for, and its end has not come in since. -/
def Outstanding (c : Connector) (events : List Event) (g : Nat) (context : Context) : Prop :=
  ∃ l m, events = l ++ m ∧ .effect (.create g context) ∈ c.asked l ∧
    ∀ result, .input (.created g result) ∉ m

/-- **A handshake has returned a client.** -/
def Returned (c : Connector) (events : List Event) (g : Nat) (context : Context) (x : Client) : Prop :=
  ∃ l, l ++ [.input (.created g (.ok x))] <+: events ∧ c.Outstanding l g context

/-- **A connector serves current clients.** Whatever happens, a call that is answered with a client gets
one that a handshake of the connector has returned for the target of the call, with credentials that agree
with those at the time of the call unless their fingerprints collide. -/
def ServesCurrent (c : Connector) : Prop :=
  ∀ before r rest resource x, (c.after before).target r = .ok resource →
    .effect (.settled (c.after before).cache.calls (.ok (.client x)))
      ∈ (c.after before).asked (.input (.connect r) :: rest) →
    ∃ g context, c.Returned (before ++ .input (.connect r) :: rest) g context x ∧
      context.resource.map ResourceId.canonicalId = resource.map ResourceId.canonicalId ∧
      (context.credentials.Agrees (c.after before).credentials ∨
        context.credentials.Collide (c.after before).credentials)

/-- A create call of the cache that has returned a client is a handshake that has. -/
theorem returned_of_cache {c : Connector} {events : List Event} {g : Nat} {context : Context}
    {x : Client} (h : c.cache.Returned (c.cacheInputs events) g context x) :
    c.Returned events g context x := by
  obtain ⟨L, ⟨M, part⟩, L₁, L₂, rfl, asked, silent⟩ := h
  rw [List.append_assoc, List.singleton_append] at part
  -- both the end of the create call and the call itself go back to events
  obtain ⟨l, e, m, rfl, first, here⟩ := exists_event part.symm
  obtain ⟨l₁, l₂, rfl, rfl, rfl⟩ := exists_split first
  rw [eq_created here]
  refine ⟨l₁ ++ l₂, by simp, l₁, l₂, rfl, (mem_asked_iff _ rfl c l₁).2 asked, fun result within => ?_⟩
  obtain ⟨s, t, rfl⟩ := List.append_of_mem within
  refine silent result ?_
  rw [cacheInputs_append, cacheInputs]
  simp [cacheInput?]

/-! ## Connectors in use -/

/-- **What a connector in use keeps**: its fingerprint is that of its credentials, which its auth method
has accepted, and it has targets only where there are several. -/
structure Proper (c : Connector) : Prop where
  /-- The fingerprint is that of the credentials. -/
  fingerprint : c.fingerprint = c.credentials.fingerprint
  /-- The auth method has accepted the credentials. -/
  accepted : ∃ b, Credentials.parse c.method b = .ok c.credentials
  /-- A target is one of several. -/
  bound : c.resource ≠ none → c.resourceType.supportsInstances = true

/-- Resource IDs are read only where there are several targets. -/
theorem readTarget_instances {type : ConnectorType} {r : ResourceType} {raw : String}
    {id : ResourceId} (h : readTarget type r raw = .ok id) : r.supportsInstances = true := by
  by_contra implicit
  simp [readTarget, implicit] at h

/-- A new connector is proper, and its cache is empty. -/
theorem proper_of_make {type : ConnectorType} {settings : ConnectorSettings} {logger : Logger}
    {c : Connector} (made : make? type settings logger = .ok c) :
    c.Proper ∧ c.cache = .empty type.provider.disconnect.isSome := by
  unfold make? at made
  split at made
  · simp at made
  split at made
  · simp at made
  next method _ _ resourceType _ =>
    cases accepted : Credentials.parse method settings.bundle with
    | error failure => simp [accepted, Except.bind, bind] at made
    | ok credentials =>
      cases read : settings.resourceId.mapM (readTarget type resourceType) with
      | error failure => simp [accepted, read, Except.bind, bind] at made
      | ok resource =>
        simp only [accepted, read, Except.bind, bind, pure, Except.pure, Except.ok.injEq] at made
        subst made
        refine ⟨⟨rfl, ⟨_, accepted⟩, fun bound => ?_⟩, rfl⟩
        cases raw : settings.resourceId with
        | none =>
          rw [raw] at read
          obtain rfl : none = resource := Except.ok.inj read
          exact absurd rfl bound
        | some raw' =>
          rw [raw] at read
          cases id : readTarget type resourceType raw' with
          | error failure =>
            have same : (some raw').mapM (readTarget type resourceType)
                = some <$> readTarget type resourceType raw' := rfl
            rw [same, id] at read
            simp [Functor.map, Except.map] at read
          | ok id' => exact readTarget_instances id

/-- Every event keeps a connector proper: credentials come in with their fingerprint, and only when they
are accepted. -/
theorem Proper.handle {c : Connector} (h : c.Proper) (e : Event) : (c.handle e).1.Proper := by
  cases e with
  | verify => exact h
  | input i =>
    cases i with
    | connect r =>
      simp only [Connector.handle, step, connect]
      cases c.target r <;> exact ⟨h.fingerprint, h.accepted, h.bound⟩
    | rotate b =>
      simp only [Connector.handle, step, rotate]
      cases accepted : Credentials.parse c.method b with
      | error => exact h
      | ok credentials => exact ⟨rfl, ⟨b, accepted⟩, h.bound⟩
    | _ => exact ⟨h.fingerprint, h.accepted, h.bound⟩

/-- **Every run keeps a connector proper.** -/
theorem Proper.after {c : Connector} (h : c.Proper) (events : List Event) :
    (c.after events).Proper :=
  Run.after_induction _ h (fun _ e h => h.handle e) events

/-- A proper connector has a target with an ID exactly where there are several. -/
theorem Proper.isSome_target {c : Connector} (h : c.Proper) {r : Option String}
    {resource : Option ResourceId} (target : c.target r = .ok resource) :
    resource.isSome = c.resourceType.supportsInstances := by
  cases r with
  | some raw =>
    cases read : readTarget c.type c.resourceType raw with
    | error => simp [Connector.target, read, Except.map] at target
    | ok id =>
      obtain rfl : some id = resource := by simpa [Connector.target, read, Except.map] using target
      rw [readTarget_instances read]
      rfl
  | none =>
    -- without an ID the call means the target of the connector, or the only one there is
    rw [Connector.target] at target
    split at target
    · next id bound =>
      obtain rfl : some id = resource := by simpa using target
      rw [h.bound (by simp [bound])]
      rfl
    · split at target
      · simp at target
      · next implicit =>
        obtain rfl : none = resource := by simpa using target
        simpa using implicit

/-- Targets with the same key have the same canonical ID, unless only one of them has any. -/
theorem canonicalId_eq_of_key {a b : Option ResourceId} (alike : a.isSome = b.isSome)
    (same : keyOf a = keyOf b) :
    a.map ResourceId.canonicalId = b.map ResourceId.canonicalId := by
  cases a <;> cases b <;> simp_all [keyOf]

/-! ## The exact condition -/

/-- **With a guarded schema a connector serves current clients.** -/
theorem Proper.servesCurrent {c : Connector} (h : c.Proper) {disposes : Bool}
    (new : c.cache = .empty disposes) (guarded : c.method.schema.Guarded) : c.ServesCurrent := by
  intro before r rest resource x target answered
  rw [mem_asked_iff (.settled (c.after before).cache.calls (.ok (.client x))) rfl] at answered
  have call : (c.after before).cacheInput? (.input (.connect r))
      = some (.acquire (keyOf resource) (c.after before).fingerprint
        ((c.after before).context resource)) := by simp [cacheInput?, target]
  have split : c.cacheInputs (before ++ .input (.connect r) :: rest)
      = c.cacheInputs before ++ .acquire (keyOf resource) (c.after before).fingerprint
        ((c.after before).context resource)
        :: ((c.after before).handle (.input (.connect r))).1.cacheInputs rest := by
    rw [cacheInputs_append, cacheInputs, call]
    rfl
  rw [cacheInputs, call, cache_after, new, Option.toList_some, List.singleton_append] at answered
  obtain ⟨g, context, wanted, returned⟩ := ClientCache.provenance disposes answered
  rw [← split] at wanted returned
  rw [← new] at returned
  -- the call that the client was made for
  obtain ⟨L, M, part⟩ := List.append_of_mem wanted
  obtain ⟨l, e, m, -, -, here⟩ := exists_event part
  obtain ⟨resource', r', rfl, target', key, fp, rfl⟩ := eq_connect here
  refine ⟨g, _, returned_of_cache returned, ?_, ?_⟩
  · have now := (h.after before).isSome_target target
    have past := (h.after l).isSome_target target'
    rw [(c.keeps_after _).resourceType] at now past
    exact canonicalId_eq_of_key (past.trans now.symm) key.symm
  · -- the fingerprints are the same, so the texts are, or they collide
    have same : (c.after l).credentials.fingerprint = (c.after before).credentials.fingerprint := by
      rw [← (h.after l).fingerprint, ← (h.after before).fingerprint, fp]
    obtain ⟨b, accepted⟩ := (h.after l).accepted
    obtain ⟨b', accepted'⟩ := (h.after before).accepted
    rw [(c.keeps_after _).method] at accepted accepted'
    by_cases text : (c.after l).credentials.fingerprintText
        = (c.after before).credentials.fingerprintText
    · exact .inl ((Credentials.guarded_iff accepted).1 guarded _ _ _ _ accepted accepted' text)
    · exact .inr ⟨text, same⟩

/-- A rotation to accepted credentials brings these in. -/
theorem rotate_accepted {c : Connector} {b : Bundle} {credentials : Credentials}
    (accepted : Credentials.parse c.method b = .ok credentials) :
    (c.handle (.input (.rotate b))).1.credentials = credentials ∧
      (c.handle (.input (.rotate b))).1.fingerprint = credentials.fingerprint ∧
      c.cacheInput? (.input (.rotate b)) = some (.evictStale credentials.fingerprint) := by
  simp [Connector.handle, step, rotate, accepted, Except.map, orRefuse, adopt, withCache, cacheInput?]

/-- A call for a target asks the cache for a client and leaves the credentials alone. -/
theorem connect_accepted {c : Connector} {r : Option String} {resource : Option ResourceId}
    (target : c.target r = .ok resource) :
    (c.handle (.input (.connect r))).1.credentials = c.credentials ∧
      (c.handle (.input (.connect r))).1.fingerprint = c.fingerprint ∧
      c.cacheInput? (.input (.connect r))
        = some (.acquire (keyOf resource) c.fingerprint (c.context resource)) := by
  simp [Connector.handle, step, connect, target, Except.map, orRefuse, acquire, withCache, cacheInput?]

/-- A handshake is made with the credentials of the call that it is made for. -/
theorem Outstanding.eq_context {c : Connector} {disposes : Bool} (new : c.cache = .empty disposes)
    {events : List Event} {g : Nat} {context : Context} (h : c.Outstanding events g context) :
    ∃ l r m resource, events = l ++ .input (.connect r) :: m ∧
      (c.after l).target r = .ok resource ∧ context = (c.after l).context resource := by
  obtain ⟨l, m, rfl, asked, -⟩ := h
  rw [mem_asked_iff (.create g context) rfl, new] at asked
  obtain ⟨key, fp, wanted⟩ := ClientCache.wanted_of_asked disposes asked
  obtain ⟨L, M, part⟩ := List.append_of_mem wanted
  obtain ⟨l', e, m', rfl, -, here⟩ := exists_event part
  obtain ⟨resource, r, rfl, target, -, -, same⟩ := eq_connect here
  exact ⟨l', r, m' ++ m, resource, by simp, target, same⟩

/-- A client is made with one bundle, and then the credentials are rotated to another one. -/
def rotated (b₁ b₂ : Bundle) (r : Option String) (x : Client) : List Event :=
  [.input (.rotate b₁), .input (.connect r), .input (.created 1 (.ok x)), .input (.rotate b₂)]

section
variable {c : Connector} {b₁ b₂ : Bundle} {c₁ c₂ : Credentials} {r : Option String}
  {resource : Option ResourceId} {x : Client}

/-- The only handshake ends after the first call. -/
theorem prefix_rotated {l : List Event} {g : Nat} {result : Except Failure Client}
    (part : l ++ [.input (.created g result)] <+: rotated b₁ b₂ r x ++ [.input (.connect r)]) :
    l = [.input (.rotate b₁), .input (.connect r)] := by
  obtain ⟨t, part⟩ := part
  rcases l with _ | ⟨e₁, _ | ⟨e₂, _ | ⟨e₃, _ | ⟨e₄, l⟩⟩⟩⟩ <;> simp [rotated] at part
  · rw [part.1, part.2.1]
  · rcases l with _ | ⟨e₅, l⟩ <;> simp at part

/-- What the rotation is to the cache. -/
theorem cacheInputs_rotated (accepted₁ : Credentials.parse c.method b₁ = .ok c₁)
    (accepted₂ : Credentials.parse c.method b₂ = .ok c₂) (target : c.target r = .ok resource) :
    ∃ context, c.cacheInputs (rotated b₁ b₂ r x) = [.evictStale c₁.fingerprint,
      .acquire (keyOf resource) c₁.fingerprint context, .created 1 (.ok x),
      .evictStale c₂.fingerprint] := by
  have keeps := c.keeps_after
  have parts : rotated b₁ b₂ r x = [.input (.rotate b₁)] ++ [.input (.connect r)]
      ++ [.input (.created 1 (.ok x))] ++ [.input (.rotate b₂)] := rfl
  obtain ⟨-, fp, first⟩ := rotate_accepted accepted₁
  -- no event changes what the call means and what is accepted
  have target' : (c.after [.input (.rotate b₁)]).target r = .ok resource := by
    rw [(keeps _).target, target]
  have accepted' : Credentials.parse (c.after ([.input (.rotate b₁)] ++ [.input (.connect r)]
      ++ [.input (.created 1 (.ok x))])).method b₂ = .ok c₂ := by
    rw [(keeps _).method, accepted₂]
  obtain ⟨-, -, second⟩ := connect_accepted target'
  obtain ⟨-, -, last⟩ := rotate_accepted accepted'
  refine ⟨(c.after [.input (.rotate b₁)]).context resource, ?_⟩
  rw [parts, cacheInputs_concat, cacheInputs_concat, cacheInputs_concat, cacheInputs, cacheInputs,
    first, second, last, after, Run.after_cons, Run.after_nil, fp]
  rfl

/-- The client is still stored after the rotation when the fingerprint is the same. -/
theorem stored_rotated {disposes : Bool} (new : c.cache = .empty disposes)
    (accepted₁ : Credentials.parse c.method b₁ = .ok c₁)
    (accepted₂ : Credentials.parse c.method b₂ = .ok c₂) (target : c.target r = .ok resource)
    (fp : c₂.fingerprint = c₁.fingerprint) :
    (c.after (rotated b₁ b₂ r x)).cache.entries.get? (keyOf resource)
      = some ⟨x, c₁.fingerprint, 1⟩ := by
  obtain ⟨context, inputs⟩ := cacheInputs_rotated (x := x) accepted₁ accepted₂ target
  rw [cache_after, inputs, new, fp]
  exact ClientCache.stored_twice disposes (keyOf resource) c₁.fingerprint context x

/-- **Credentials with the same text are confused**: a client that was made with the first is handed out
after a rotation to the second. -/
theorem not_servesCurrent {disposes : Bool} (new : c.cache = .empty disposes)
    (accepted₁ : Credentials.parse c.method b₁ = .ok c₁)
    (accepted₂ : Credentials.parse c.method b₂ = .ok c₂)
    (text : c₁.fingerprintText = c₂.fingerprintText) (apart : ¬ c₁.Agrees c₂)
    (target : c.target r = .ok resource) (x : Client) : ¬ c.ServesCurrent := by
  intro serves
  have keeps := c.keeps_after
  -- one text has one fingerprint, so the second rotation evicts nothing
  have fp : c₂.fingerprint = c₁.fingerprint := congrArg Digest.sha256 text.symm
  have current : (c.after (rotated b₁ b₂ r x)).credentials = c₂ ∧
      (c.after (rotated b₁ b₂ r x)).fingerprint = c₁.fingerprint := by
    have accepted' : Credentials.parse (c.after [.input (.rotate b₁), .input (.connect r),
        .input (.created 1 (.ok x))]).method b₂ = .ok c₂ := by
      rw [(keeps _).method, accepted₂]
    obtain ⟨credentials, fingerprint, -⟩ := rotate_accepted accepted'
    exact ⟨credentials, fingerprint.trans fp⟩
  have stored := stored_rotated (x := x) new accepted₁ accepted₂ target fp
  have target' : (c.after (rotated b₁ b₂ r x)).target r = .ok resource := by
    rw [(keeps _).target, target]
  have answered : .effect (.settled (c.after (rotated b₁ b₂ r x)).cache.calls (.ok (.client x)))
      ∈ (c.after (rotated b₁ b₂ r x)).asked [.input (.connect r)] := by
    rw [mem_asked_iff (.settled _ (.ok (.client x))) rfl, cacheInputs,
      (connect_accepted target').2.2, current.2]
    simpa [ClientCache.asked, ClientCache.trace, cacheInputs] using ClientCache.step_hit stored _
  obtain ⟨g, context, ⟨l, part, outstanding⟩, -, served⟩ :=
    serves (rotated b₁ b₂ r x) r [] resource x target' answered
  -- the only handshake has been made for the first call
  obtain rfl := prefix_rotated part
  obtain ⟨l', r', m, resource', part', -, rfl⟩ := outstanding.eq_context new
  have first : l' = [.input (.rotate b₁)] := by
    rcases l' with _ | ⟨e₁, _ | ⟨e₂, l⟩⟩ <;> simp at part'
    rw [part'.1]
  have past : ((c.after l').context resource').credentials = c₁ := by
    rw [first]
    exact (rotate_accepted accepted₁).1
  rw [current.1, past] at served
  rcases served with agrees | ⟨other, -⟩
  · exact apart agrees
  · exact other text

end

/-- A connector that can make a call serves current clients only with a guarded schema. -/
theorem Proper.guarded {c : Connector} (h : c.Proper) {disposes : Bool}
    (new : c.cache = .empty disposes) (r : Option String) (resource : Option ResourceId)
    (target : c.target r = .ok resource) (serves : c.ServesCurrent) : c.method.schema.Guarded := by
  obtain ⟨b, accepted⟩ := h.accepted
  rw [Credentials.guarded_iff accepted]
  intro b₁ b₂ c₁ c₂ accepted₁ accepted₂ text
  by_contra apart
  exact not_servesCurrent new accepted₁ accepted₂ text apart target (.extension ⟨1, none, none⟩) serves

/-- **Current clients, exactly.** A new connector serves current clients exactly when it can make no call
at all or its auth method takes arbitrary values as secrets only. -/
theorem servesCurrent_iff {type : ConnectorType} {settings : ConnectorSettings} {logger : Logger}
    {c : Connector} (made : make? type settings logger = .ok c) :
    c.ServesCurrent ↔ (∀ r resource, c.target r ≠ .ok resource) ∨ c.method.schema.Guarded := by
  obtain ⟨proper, new⟩ := proper_of_make made
  constructor
  · intro serves
    rw [or_iff_not_imp_left]
    intro able
    simp only [not_forall, not_not] at able
    obtain ⟨r, resource, target⟩ := able
    exact proper.guarded new r resource target serves
  · rintro (unable | guarded)
    · intro before r rest resource x target
      rw [(c.keeps_after before).target] at target
      exact absurd target (unable r resource)
    · exact proper.servesCurrent new guarded

/-- Settings of a connector to a container registry. -/
def registrySettings : ConnectorSettings where
  method := "password"
  bundle := .ofList [("username", .value (.str "user")), ("password", .value (.str "word"))]
  resourceType := none
  resourceId := none
  name := none

/-- Container registries take texts only, and all of them as secrets. -/
theorem guarded_docker : ∀ m ∈ Docker.spec.methods, m.schema.Guarded := by
  intro m here
  obtain rfl := List.mem_singleton.1 here
  refine Schema.forall_fields.1 fun e declared => ?_
  rw [Table.entries_ofList (by decide), List.mem_cons, List.mem_singleton] at declared
  rcases declared with rfl | rfl <;> exact fun _ => rfl

/-- A connector to a container registry serves current clients. -/
theorem servesCurrent_iff_registry : ∃ c,
    make? (Docker.connectorType "daemon" "docker") registrySettings .silent = .ok c ∧
      c.ServesCurrent := by
  have made : make? (Docker.connectorType "daemon" "docker") registrySettings .silent = .ok _ := rfl
  exact ⟨_, made, (servesCurrent_iff made).2 (.inr (guarded_docker _ (List.mem_singleton.2 rfl)))⟩

/-- A service that takes a weight of any kind. -/
def weighing : ConnectorType where
  spec := {
    id := "weighing"
    name := "Weighing"
    description := "Takes a token and a weight."
    methods := [{
      id := "loose"
      name := "Loose"
      description := "Takes any weight."
      schema := {
        fields := .ofList [("token", .secretText none), ("weight", ⟨none, .any, false, false, none⟩)]
        additional := none } }]
    resourceTypes := [⟨"account", "Account", none, false, false, ["loose"]⟩]
    supportsAutoConfiguration := false }
  resolvers := ∅
  provider := {
    connect := fun _ => pure (.extension ⟨1, none, none⟩)
    verify := fun _ _ => pure (.verified [])
    disconnect := none
    configureLocal := none
    autoConfigure := none }

/-- Settings with a weight. -/
def weighingSettings (weight : Number) : ConnectorSettings where
  method := "loose"
  bundle := .ofList [("token", .value (.str "s")), ("weight", .value (.num weight))]
  resourceType := none
  resourceId := none
  name := none

/-- A weight that turns from one infinity to the other is no change of credentials to the cache. -/
theorem not_servesCurrent_infinities : ∃ c,
    make? weighing (weighingSettings (.infinite false)) .silent = .ok c ∧ ¬ c.ServesCurrent := by
  have made : make? weighing (weighingSettings (.infinite false)) .silent = .ok _ := rfl
  refine ⟨_, made, fun serves => ?_⟩
  obtain ⟨proper, new⟩ := proper_of_make made
  have guarded := proper.guarded new none none rfl serves
  exact Bool.false_ne_true (guarded "weight" ⟨none, .any, false, false, none⟩ rfl rfl)

end Connector

end ServiceAccess
