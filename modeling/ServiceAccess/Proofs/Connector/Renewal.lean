import ServiceAccess.Proofs.Connector.Rotation
import ServiceAccess.Proofs.Credentials.Reread

/-! # Rotations to the credentials that are there

A connector can be told to rotate to its own credentials. This is meant to be harmless: they have been accepted before,
and what was built with them is still current. It is so where the credentials can be read again. Where a secret is held
by a field of numbers or of truth values, the connector refuses its own credentials.

* **`fingerprint_of_stored`**: a stored client has the fingerprint of the credentials that it was built with.
* **`RenewsInPlace`**: a rotation that leaves everything current as it is.
* **`Credentials.renewable_iff`**: which credentials can be read again, and rotated to by those who hold them. -/

namespace ServiceAccess

/-- Where the secrets are texts, all credentials are legible. -/
theorem Schema.SecretsAreTexts.legible {m : AuthMethod} (texts : m.schema.SecretsAreTexts)
    (credentials : Credentials) : credentials.Legible m := by
  intro field rule declared secret _
  obtain ⟨least, most, pattern, kind⟩ := texts field rule declared secret
  rw [kind]
  rfl

namespace Connector

variable {c c₀ : Connector} {events : List Event}

/-! ## Stored clients -/

/-- **A client that a connector stores was built with credentials of the fingerprint that it is stored with.** -/
theorem fingerprint_of_stored (proper : c₀.Proper) {disposes : Bool} (fresh : c₀.cache = .empty disposes)
    {key : String} {e : ClientCache.Entry Client} (stored : (c₀.after events).cache.entries.get? key = some e)
    {context : Context} (built : .effect (.create e.generation context) ∈ c₀.asked events) :
    e.fingerprint = context.credentials.fingerprint := by
  rw [cache_after, fresh] at stored
  rw [mem_asked_iff (.create e.generation context) rfl, fresh] at built
  obtain ⟨L, M, part⟩ := List.append_of_mem (ClientCache.wanted_of_stored disposes stored built)
  -- both come from the connector at the time of the call that the client was built for
  obtain ⟨l, call, m, -, -, here⟩ := exists_event part
  obtain ⟨resource, r, -, -, -, same, rfl⟩ := eq_connect here
  rw [same, (proper.after l).fingerprint]
  rfl

/-! ## Rotations in place -/

/-- **A rotation in place** of a connector, after some events: it goes through, and what is current stays. -/
structure RenewsInPlace (c₀ : Connector) (events : List Event) (turn : Turn) : Prop where
  /-- The credentials are adopted. They are the ones that were there. -/
  adopted : (c₀.after events).AdoptsRotation (c₀.after events).credentials turn
  /-- Stored clients that were built with them stay where they are. -/
  kept : ∀ key e context, (c₀.after events).cache.entries.get? key = some e →
    .effect (.create e.generation context) ∈ c₀.asked events →
    context.credentials = (c₀.after events).credentials → turn.1.cache.entries.get? key = some e
  /-- The call fails only with the failure of a release that it has started, of a client that was not current. -/
  blamed : ∀ later failure,
    .error failure ∈ answersTo (c₀.after events).cache.calls (turn.1.asked later) →
    ∃ r ∈ (c₀.after events).disposals (c₀.after events).fingerprint,
      .input (.released r (.error failure)) ∈ later

/-- An adopted rotation fails only with the failure of one of its releases. -/
theorem AdoptsRotation.blames {new : Credentials} {turn : Turn} (h : c.AdoptsRotation new turn)
    {later : List Event} {failure : Failure}
    (failed : .error failure ∈ answersTo c.cache.calls (turn.1.asked later)) :
    ∃ r ∈ c.disposals new.fingerprint, .input (.released r (.error failure)) ∈ later := by
  by_cases all : ∀ r ∈ c.disposals new.fingerprint, turn.1.result? r later ≠ none
  · -- once the continuations on the list have run, the call has been answered, and with nothing else
    let rest : List Event := List.replicate (turn.1.after later).cache.jobs.length (.input .resume)
    have answered := h.answered later rest all (by simp [rest, resumes, List.countP_replicate])
    have among : .error failure ∈ answersTo c.cache.calls (turn.1.asked (later ++ rest)) := by
      rw [asked_append, answersTo_append]
      exact List.mem_append_left _ failed
    rw [answered, List.mem_singleton] at among
    obtain ⟨before, r, after, parts, ended, -⟩ := ClientCache.verdict_eq_error_iff.1 among.symm
    exact ⟨r, by simp [parts], released_of_result? ended⟩
  · -- before that it has no answer
    simp only [not_forall, not_not] at all
    obtain ⟨r, listed, unended⟩ := all
    rw [h.pending later ⟨r, listed, unended⟩] at failed
    cases failed

/-- **A rotation to the credentials that are there is in place**, once it is accepted. -/
theorem renewsInPlace (proper : c₀.Proper) {disposes : Bool} (fresh : c₀.cache = .empty disposes) {b : Bundle}
    (accepted : Credentials.parse (c₀.after events).method b = .ok (c₀.after events).credentials) :
    c₀.RenewsInPlace events ((c₀.after events).step (.rotate b)) := by
  have adopted := adoptsRotation fresh rfl accepted
  refine ⟨adopted, fun key e context stored built own => ?_, fun later failure failed => ?_⟩
  · have current : e.fingerprint = (c₀.after events).credentials.fingerprint := by
      rw [fingerprint_of_stored proper fresh stored built, own]
    rw [Table.get?_eq_some_iff, adopted.entries, List.mem_filter, ← Table.get?_eq_some_iff]
    exact ⟨stored, decide_eq_true current⟩
  · rw [(proper.after events).fingerprint]
    exact adopted.blames failed

end Connector

/-! ## Credentials that are read again -/

namespace Credentials

/-- **Credentials that can be renewed.** Read again, they come back as what they are; and every connector that has come to
hold them can be told to rotate to them, and does so in place. -/
structure Renewable (credentials : Credentials) (m : AuthMethod) : Prop where
  /-- They are accepted again, and nothing about them changes. -/
  reread : parse m credentials.toBundle = .ok credentials
  /-- Connectors that hold them rotate to them in place. -/
  inPlace : ∀ c₀ : Connector, c₀.Obtained → ∀ events, (c₀.after events).method = m →
    (c₀.after events).credentials = credentials →
    c₀.RenewsInPlace events ((c₀.after events).step (.rotate credentials.toBundle))

/-- **Credentials that are refused.** Read again, they are found misconfigured; and every connector that has come to
hold them refuses to rotate to them. -/
structure Refused (credentials : Credentials) (m : AuthMethod) : Prop where
  /-- Something is wrong with their bundle. -/
  misconfigured : ∃ problems, parse m credentials.toBundle
    = .error (.configuration (.invalidBundle m.id problems) none)
  /-- Connectors that hold them stay as they are. -/
  unmoved : ∀ c₀ : Connector, c₀.Obtained → ∀ events, (c₀.after events).method = m →
    (c₀.after events).credentials = credentials → ∃ failure,
      (c₀.after events).RefusesRotation failure ((c₀.after events).step (.rotate credentials.toBundle))

/-- **Which credentials can be renewed**: those whose secrets are held by fields that take texts. All others are
refused. -/
theorem renewable_iff {m : AuthMethod} {b : Bundle} {credentials : Credentials}
    (accepted : parse m b = .ok credentials) :
    (credentials.Renewable m ↔ credentials.Legible m) ∧ (credentials.Refused m ↔ ¬ credentials.Legible m) := by
  have renewable (legible : credentials.Legible m) : credentials.Renewable m := by
    have reread := parse_toBundle accepted legible
    refine ⟨reread, fun c₀ obtained events method holds => ?_⟩
    obtain ⟨type, settings, logger, made⟩ := obtained.make
    obtain ⟨proper, fresh⟩ := Connector.proper_of_make made
    exact Connector.renewsInPlace proper fresh (by rw [method, holds, reread])
  have refused (illegible : ¬ credentials.Legible m) : credentials.Refused m := by
    obtain ⟨problems, failed⟩ := parse_toBundle_of_not_legible accepted illegible
    refine ⟨⟨problems, failed⟩, fun c₀ _ events method _ => ?_⟩
    subst method
    exact ⟨_, Connector.refusesRotation failed⟩
  -- nothing is both accepted and refused
  have apart (h : credentials.Renewable m) (h' : credentials.Refused m) : False := by
    obtain ⟨problems, failed⟩ := h'.misconfigured
    cases failed.symm.trans h.reread
  refine ⟨⟨fun h => ?_, renewable⟩, fun h legible => apart (renewable legible) h, refused⟩
  by_contra illegible
  exact apart h (refused illegible)

end Credentials

namespace Connector

/-- An auth method that takes a code, and a truth value as a secret. -/
def gate : AuthMethod where
  id := "gate"
  name := "Gate"
  description := "Takes a code and whether it is an administrator's."
  schema := {
    fields := .ofList [("code", .secretText none), ("admin", ⟨none, .flag, true, false, none⟩)]
    additional := none }

/-- An administrator's code. -/
def gateBundle : Bundle := .ofList [("code", .value (.str "s")), ("admin", .value (.bool true))]

/-- A service with gates. -/
def gates : ConnectorType where
  spec := {
    id := "gates"
    name := "Gates"
    description := "Opens gates."
    methods := [gate]
    resourceTypes := [⟨"account", "Account", none, false, false, ["gate"]⟩]
    supportsAutoConfiguration := false }
  resolvers := ∅
  provider := sessions.provider

/-- Settings with an administrator's code. -/
def gateSettings : ConnectorSettings where
  method := "gate"
  bundle := gateBundle
  resourceType := none
  resourceId := none
  name := none

/-- An administrator's code is not legible. -/
theorem not_legible_gate {credentials : Credentials} (accepted : Credentials.parse gate gateBundle = .ok credentials) :
    ¬ credentials.Legible gate := by
  intro legible
  obtain rfl := Except.ok.inj accepted
  exact absurd (legible "admin" ⟨none, .flag, true, false, none⟩ rfl rfl rfl) (by decide)

/-- The token of a session is a text. -/
theorem sessions_secretsAreTexts : ∀ m ∈ sessions.spec.methods, m.schema.SecretsAreTexts := by
  intro m here
  obtain rfl := List.mem_singleton.1 here
  refine Schema.forall_fields.1 fun e declared secret => ?_
  rw [Table.entries_ofList (by decide)] at declared
  obtain rfl := List.mem_singleton.1 declared
  exact ⟨_, _, _, rfl⟩

/-- The token of a session can be renewed, and this leaves the session stored. An administrator's code is refused by its
own gate. -/
theorem renewable_iff_sessions_gates : ∃ c₀ c₁, make? sessions sessionsSettings .silent = .ok c₀ ∧
    make? gates gateSettings .silent = .ok c₁ ∧
    Credentials.parse c₀.method c₀.credentials.toBundle = .ok c₀.credentials ∧
    c₀.RenewsInPlace oneSession ((c₀.after oneSession).step (.rotate c₀.credentials.toBundle)) ∧
    c₁.credentials.Refused gate := by
  obtain ⟨c₀, made⟩ : ∃ c₀, make? sessions sessionsSettings .silent = .ok c₀ := ⟨_, rfl⟩
  obtain ⟨c₁, made₁⟩ : ∃ c₁, make? gates gateSettings .silent = .ok c₁ := ⟨_, rfl⟩
  have legible : c₀.credentials.Legible c₀.method := by
    obtain rfl := Except.ok.inj made
    exact (sessions_secretsAreTexts _ List.mem_cons_self).legible _
  have accepted : Credentials.parse c₀.method sessionsSettings.bundle = .ok c₀.credentials := by
    obtain rfl := Except.ok.inj made
    rfl
  have accepted₁ : Credentials.parse gate gateBundle = .ok c₁.credentials := by
    obtain rfl := Except.ok.inj made₁
    rfl
  have held : (c₀.after oneSession).credentials = c₀.credentials := by
    obtain rfl := Except.ok.inj made
    rfl
  have renewable := (Credentials.renewable_iff accepted).1.2 legible
  exact ⟨c₀, c₁, made, made₁, renewable.reread,
    renewable.inPlace c₀ (.made made) oneSession (c₀.keeps_after oneSession).method held,
    (Credentials.renewable_iff accepted₁).2.2 (not_legible_gate accepted₁)⟩

/-- Not all credentials can be renewed: the text of a secret truth value is not one. -/
theorem not_renewable_gate : ¬ ∀ (m : AuthMethod) (b : Bundle) (credentials : Credentials),
    Credentials.parse m b = .ok credentials → credentials.Renewable m := by
  intro renewable
  obtain ⟨credentials, accepted⟩ : ∃ credentials, Credentials.parse gate gateBundle = .ok credentials := ⟨_, rfl⟩
  have again := (renewable gate gateBundle credentials accepted).reread
  obtain ⟨problems, refused⟩ := Credentials.parse_toBundle_of_not_legible accepted (not_legible_gate accepted)
  cases refused.symm.trans again

end Connector

end ServiceAccess
