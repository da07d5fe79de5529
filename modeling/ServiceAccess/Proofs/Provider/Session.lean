import ServiceAccess.Proofs.Connector.Storage
import ServiceAccess.Proofs.Credentials.Accepted
import ServiceAccess.Provider.Cloud.Basic

/-! # Sessions of the cloud

Both auth methods of the cloud have a region, an endpoint and access keys; temporary keys have a session token as well.
A session is read back from the fields of the credentials.

* **`Cloud.SessionOf`**: a session, as credentials hold it; they hold one session only, which tells them.
* **`Cloud.exists_session`**: it is read from all accepted credentials.
* **`Cloud.readTarget_eq_ok_iff`**: the targets of the cloud. -/

namespace ServiceAccess

/-! ## Reading fields -/

namespace Credentials

variable {c : Credentials} {field : String}

/-- A plain text is read, if there is one. -/
theorem string_of_held {s : Option String} (held : c.get? field = s.map fun s => .plain (.text s)) :
    c.string field = .ok s := by
  cases s <;> simp [string, held]

/-- A secret is read in the clear. -/
theorem secret_of_held {s : Secret} (held : c.get? field = some (.secret s)) : c.secret field = .ok s.cleartext := by
  simp [secret, held]

/-- A secret is read in the clear, if there is one. -/
theorem optionalSecret_of_held {s : Option String} (held : c.get? field = s.map fun s => .secret ⟨s⟩) :
    c.optionalSecret field = .ok s := by
  have there : c.has field = s.isSome := by rw [has, Table.contains_eq_isSome, ← get?, held, Option.isSome_map]
  cases s with
  | none => simp [optionalSecret, there]
  | some s => simp [optionalSecret, there, secret_of_held held, Except.map]

end Credentials

/-! ## Sessions -/

namespace Cloud

variable {m : AuthMethod} {a a' : Credentials} {b b' : Bundle}

/-- A session, as credentials hold it. -/
structure SessionOf (a : Credentials) (s : CloudSession) : Prop where
  /-- The region. -/
  region : a.get? "region" = some (.plain (.text s.region))
  /-- The address of a compatible service. -/
  endpoint : a.get? "endpoint" = s.endpoint.map fun e => .plain (.text e)
  /-- The public part of the keys. -/
  accessKeyId : a.get? "accessKeyId" = some (.secret ⟨s.keys.accessKeyId⟩)
  /-- The secret part of the keys. -/
  secretAccessKey : a.get? "secretAccessKey" = some (.secret ⟨s.keys.secretAccessKey⟩)
  /-- The session token. -/
  sessionToken : a.get? "sessionToken" = s.keys.sessionToken.map fun t => .secret ⟨t⟩

/-- The session tells the credentials. -/
theorem eq_of_session (declared : m ∈ spec.methods) {s : CloudSession}
    (accepted : Credentials.parse m b = .ok a) (accepted' : Credentials.parse m b' = .ok a')
    (same : SessionOf a s) (same' : SessionOf a' s) : a = a' := by
  refine Credentials.eq_of_accepted accepted accepted' fun field rule here => ?_
  have key : field ∈ ["region", "accessKeyId", "secretAccessKey", "endpoint", "sessionToken"] := by
    have mem := Table.mem_keys_iff.2 ⟨rule, here⟩
    rcases List.mem_pair.1 declared with rfl | rfl
    · exact List.mem_append_left ["sessionToken"] mem
    · exact mem
  simp only [List.mem_cons, List.not_mem_nil, or_false] at key
  rcases key with rfl | rfl | rfl | rfl | rfl
  · rw [same.region, same'.region]
  · rw [same.accessKeyId, same'.accessKeyId]
  · rw [same.secretAccessKey, same'.secretAccessKey]
  · rw [same.endpoint, same'.endpoint]
  · rw [same.sessionToken, same'.sessionToken]

theorem SessionOf.unique {s s' : CloudSession} (h : SessionOf a s) (h' : SessionOf a s') : s = s' := by
  obtain ⟨region, endpoint, id, key, token⟩ := s
  obtain ⟨region', endpoint', id', key', token'⟩ := s'
  have texts : Function.Injective fun s => FieldValue.plain (.text s) := fun s t same => by
    simpa using same
  have secrets : Function.Injective fun s => FieldValue.secret ⟨s⟩ := fun s t same => by
    simpa using same
  obtain rfl := texts (Option.some.inj (h.region.symm.trans h'.region))
  obtain rfl := Option.map_injective texts (h.endpoint.symm.trans h'.endpoint)
  obtain rfl := secrets (Option.some.inj (h.accessKeyId.symm.trans h'.accessKeyId))
  obtain rfl := secrets (Option.some.inj (h.secretAccessKey.symm.trans h'.secretAccessKey))
  obtain rfl := Option.map_injective secrets (h.sessionToken.symm.trans h'.sessionToken)
  rfl

/-- The fields of both auth methods hold texts, and only the endpoint may be missing. -/
theorem keys_of_accepted (declared : m ∈ spec.methods) (accepted : Credentials.parse m b = .ok a) :
    ∀ e ∈ keyFields, (a.get? e.1 = none ∧ e.2.optional = true) ∨
      ∃ s, a.get? e.1 = some (if e.2.secret then .secret ⟨s⟩ else .plain (.text s)) := by
  rw [keyFields]
  rcases List.mem_pair.1 declared with rfl | rfl <;>
  · refine List.forall_mem_cons.2 ⟨?_, List.forall_mem_cons.2 ⟨?_, List.forall_mem_cons.2 ⟨?_,
      List.forall_mem_singleton.2 ?_⟩⟩⟩ <;>
    exact Credentials.text_of_accepted accepted rfl rfl

/-- Only temporary keys have a session token, which they must have. -/
theorem token_of_accepted (declared : m ∈ spec.methods) (accepted : Credentials.parse m b = .ok a) :
    (m.id = secretKey ∧ a.get? "sessionToken" = none) ∨
      (m.id = temporaryKey ∧ ∃ token, a.get? "sessionToken" = some (.secret ⟨token⟩)) := by
  rcases List.mem_pair.1 declared with rfl | rfl
  · refine .inl ⟨rfl, Option.eq_none_iff_forall_ne_some.2 fun v held => ?_⟩
    obtain ⟨rule, field⟩ := Credentials.declared_of_accepted accepted held
    cases field
  · have field : (Table.ofList (keyFields ++ [("sessionToken", FieldRule.secretText (some "AWS session token"))])).get?
        "sessionToken" = some (.secretText (some "AWS session token")) := rfl
    rcases Credentials.text_of_accepted accepted field rfl with ⟨-, optional⟩ | held
    · cases optional
    · exact .inr ⟨rfl, held⟩

/-- **Accepted credentials hold a session**, and it is read from them. -/
theorem exists_session (declared : m ∈ spec.methods) (accepted : Credentials.parse m b = .ok a) :
    ∃ s, sessionOf a = .ok s ∧ SessionOf a s := by
  have keys := keys_of_accepted declared accepted
  simp only [keyFields, List.forall_mem_cons, FieldRule.secretText, Bool.false_eq_true,
    and_false, false_or, if_true, if_false, and_true] at keys
  obtain ⟨⟨region, regionHeld⟩, ⟨id, idHeld⟩, ⟨key, keyHeld⟩, endpointHeld⟩ := keys
  obtain ⟨endpoint, endpointHeld⟩ : ∃ e : Option String, a.get? "endpoint" = e.map fun e => .plain (.text e) := by
    rcases endpointHeld with absent | ⟨e, held⟩
    · exact ⟨none, absent⟩
    · exact ⟨some e, held⟩
  obtain ⟨token, tokenHeld⟩ : ∃ t : Option String, a.get? "sessionToken" = t.map fun t => .secret ⟨t⟩ := by
    rcases token_of_accepted declared accepted with ⟨-, absent⟩ | ⟨-, t, held⟩
    · exact ⟨none, absent⟩
    · exact ⟨some t, held⟩
  refine ⟨⟨region, endpoint, id, key, token⟩, ?_, regionHeld, endpointHeld, idHeld, keyHeld, tokenHeld⟩
  rw [sessionOf, Credentials.string_of_held (s := some region) regionHeld, Credentials.string_of_held endpointHeld,
    Credentials.secret_of_held idHeld, Credentials.secret_of_held keyHeld,
    Credentials.optionalSecret_of_held tokenHeld]
  rfl

/-! ## Targets -/

/-- **Resource IDs of the cloud are those of buckets.** -/
theorem readTarget_eq_ok_iff {api : Interface} {r : ResourceType} {raw : String} {id : ResourceId} :
    Connector.readTarget (connectorType api) r raw = .ok id ↔
      r.supportsInstances = true ∧ r.id = Bucket.resourceType ∧ Bucket.resolver.parse raw = .ok id := by
  have only : (connectorType api).resolvers = .ofList [(Bucket.resourceType, Bucket.resolver)] := rfl
  have reads : ∀ resolver, (connectorType api).resolvers.get? r.id = some resolver ↔
      r.id = Bucket.resourceType ∧ Bucket.resolver = resolver := by
    intro resolver
    rw [only, Table.ofList, List.foldl_cons, List.foldl_nil, Table.get?_insert]
    by_cases bucket : r.id = Bucket.resourceType <;> simp [bucket]
  simp only [Connector.readTarget_eq_ok_iff, reads]
  refine and_congr_right fun _ => ?_
  constructor
  · rintro ⟨-, resolver, ⟨bucket, rfl⟩, parsed⟩
    exact ⟨bucket, parsed⟩
  · rintro ⟨bucket, parsed⟩
    exact ⟨bucket ▸ rfl, Bucket.resolver, ⟨bucket, rfl⟩, parsed⟩

end Cloud

end ServiceAccess
