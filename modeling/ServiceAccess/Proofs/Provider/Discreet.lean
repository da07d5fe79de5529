import ServiceAccess.Proofs.Credentials.Veiled
import ServiceAccess.Proofs.Provider.Session
import ServiceAccess.Proofs.Routine
import ServiceAccess.Provider.Docker

/-! # Discreet connector types

A connector type is discreet when nothing that its routines write shows the secrets they work with: with other
secrets in the same places they go on alike, and make clients that are the same ones exactly when those
of the other side are.

* **`ConnectorType.Discreet`**: what this means, for credentials that take each other's place.
* **`Docker.discreet`**: the container registries are discreet.
* **`Cloud.discreet`**: the cloud is discreet, through an interface that is. -/

namespace ServiceAccess

/-! ## Credentials in place of each other -/

/-- **Credentials that take each other's place**: both are accepted, they differ in the clear text of secrets
only, and they are the same on one side exactly when they are on the other. -/
structure AuthMethod.Pairing (m : AuthMethod) (P : Credentials → Credentials → Prop) : Prop where
  /-- The auth method accepts the ones. -/
  accepted : ∀ {a a'}, P a a' → ∃ b, Credentials.parse m b = .ok a
  /-- It accepts the others. -/
  accepted' : ∀ {a a'}, P a a' → ∃ b, Credentials.parse m b = .ok a'
  /-- They differ in the clear text of secrets only. -/
  alike : ∀ {a a'}, P a a' → a.Alike a'
  /-- Two of them are the same when their counterparts are. -/
  eq_iff : ∀ {a a' b b'}, P a a' → P b b' → (a = b ↔ a' = b')

/-- What credentials tell, and are told by, is the same when its counterparts are. -/
theorem AuthMethod.Pairing.made_iff {m : AuthMethod} {P : Credentials → Credentials → Prop}
    (pairing : m.Pairing P) {α : Type} (Made : Credentials → α → Prop)
    (tells : ∀ {a a' b b' x}, Credentials.parse m b = .ok a → Credentials.parse m b' = .ok a' →
      Made a x → Made a' x → a = a')
    (unique : ∀ {a x y}, Made a x → Made a y → x = y) {a a' b b' : Credentials} {x x' y y' : α}
    (held : P a a') (held' : P b b') (made : Made a x) (made' : Made a' x') (other : Made b y)
    (other' : Made b' y') : x = y ↔ x' = y' := by
  have told : ∀ {a b : Credentials} {x y : α}, (∃ s, Credentials.parse m s = .ok a) →
      (∃ s, Credentials.parse m s = .ok b) → Made a x → Made b y → (x = y ↔ a = b) := by
    rintro a b x y ⟨s, accepted⟩ ⟨t, accepted'⟩ made other
    constructor
    · rintro rfl
      exact tells accepted accepted' made other
    · rintro rfl
      exact unique made other
  rw [told (pairing.accepted held) (pairing.accepted held') made other,
    told (pairing.accepted' held) (pairing.accepted' held') made' other', pairing.eq_iff held held']

/-- The routines of a connector type go on alike with credentials in place of each other, up to clients
that correspond. -/
structure ConnectorType.Veils (type : ConnectorType) (m : AuthMethod)
    (P : Credentials → Credentials → Prop) (R : Client → Client → Prop) : Prop where
  /-- Clients are the same ones when their counterparts are. -/
  client_iff : ∀ {x x' y y'}, R x x' → R y y' → (x = y ↔ x' = y')
  /-- Handshakes go on alike. -/
  connect : ∀ {a a'}, P a a' → ∀ r resource, Routine.Alike R
    (type.provider.connect ⟨type.spec, m, a, r, resource⟩)
    (type.provider.connect ⟨type.spec, m, a', r, resource⟩)
  /-- Verifications go on alike. -/
  verify : ∀ {a a'}, P a a' → ∀ r resource discover, Routine.Alike Eq
    (type.provider.verify ⟨type.spec, m, a, r, resource⟩ discover)
    (type.provider.verify ⟨type.spec, m, a', r, resource⟩ discover)
  /-- The set-up of the local tool goes on alike. -/
  configureLocal : ∀ configure, type.provider.configureLocal = some configure →
    ∀ {a a'}, P a a' → ∀ r resource, Routine.Alike Eq (configure ⟨type.spec, m, a, r, resource⟩)
      (configure ⟨type.spec, m, a', r, resource⟩)
  /-- Releases of clients that correspond go on alike. -/
  disconnect : ∀ release, type.provider.disconnect = some release →
    ∀ {x x'}, R x x' → Routine.Alike Eq (release x) (release x')

/-- **A connector type that does not show secrets.** -/
def ConnectorType.Discreet (type : ConnectorType) : Prop :=
  ∀ m ∈ type.spec.methods, ∀ P, m.Pairing P → ∃ R, type.Veils m P R

/-! ## Reading fields -/

namespace Credentials

variable {a a' : Credentials}

/-- Secrets are read alike: both sides hold one, or none does. -/
theorem Alike.secret (h : a.Alike a') (field : String) :
    Results.Related (fun s s' => a.get? field = some (.secret ⟨s⟩) ∧ a'.get? field = some (.secret ⟨s'⟩))
      (a.secret field) (a'.secret field) := by
  rcases h.get?_cases field with ⟨left, right⟩ | ⟨v, left, right⟩ | ⟨s, t, left, right⟩ <;>
    simp only [Credentials.secret, left, right, h.method]
  · exact .error _
  · exact .error _
  · exact .ok ⟨rfl, rfl⟩

end Credentials

/-! ## Container registries -/

namespace Docker

variable {m : AuthMethod} {P : Credentials → Credentials → Prop} {a a' : Credentials}

/-- A user with a password, as credentials hold them. -/
structure UserOf (a : Credentials) (user : String × String) : Prop where
  /-- The user. -/
  username : a.get? "username" = some (.secret ⟨user.1⟩)
  /-- The password. -/
  password : a.get? "password" = some (.secret ⟨user.2⟩)

/-- Logins with credentials in place of each other, at the same registry. -/
structure LoginPair (P : Credentials → Credentials → Prop) (auth auth' : RegistryLogin) : Prop where
  /-- The credentials. -/
  users : ∃ a a', P a a' ∧ UserOf a (auth.username, auth.password) ∧
    UserOf a' (auth'.username, auth'.password)
  /-- The registry. -/
  address : auth.serverAddress = auth'.serverAddress

/-- Engines that are logged in with credentials in place of each other. -/
inductive EnginePair (P : Credentials → Credentials → Prop) : Client → Client → Prop
  /-- The same engine and registry, with logins that take each other's place. -/
  | engine (handle : Handle) (registry : Option String) {auth auth' : RegistryLogin} :
      LoginPair P auth auth' → EnginePair P (.engine handle registry auth) (.engine handle registry auth')

/-- The user with the password tells the credentials. -/
theorem eq_of_user (declared : m ∈ spec.methods) {b b' : Bundle} {user : String × String}
    (accepted : Credentials.parse m b = .ok a) (accepted' : Credentials.parse m b' = .ok a')
    (same : UserOf a user) (same' : UserOf a' user) : a = a' := by
  obtain rfl : m = _ := List.mem_singleton.1 declared
  refine Credentials.eq_of_accepted accepted accepted' fun field rule here => ?_
  have key : field ∈ ["username", "password"] := Table.mem_keys_iff.2 ⟨rule, here⟩
  rcases List.mem_pair.1 key with rfl | rfl
  · rw [same.username, same'.username]
  · rw [same.password, same'.password]

theorem UserOf.unique {user user' : String × String} (h : UserOf a user) (h' : UserOf a user') :
    user = user' := by
  have names := h.username.symm.trans h'.username
  have words := h.password.symm.trans h'.password
  simp only [Option.some.injEq, FieldValue.secret.injEq, Secret.mk.injEq] at names words
  exact Prod.ext names words

/-- Logins are the same when their counterparts are. -/
theorem LoginPair.iff (declared : m ∈ spec.methods) (pairing : m.Pairing P)
    {auth auth' other other' : RegistryLogin} (h : LoginPair P auth auth')
    (h' : LoginPair P other other') : auth = other ↔ auth' = other' := by
  obtain ⟨⟨a, a', held, user, user'⟩, address⟩ := h
  obtain ⟨⟨b, b', held', login, login'⟩, address'⟩ := h'
  have users := pairing.made_iff UserOf (eq_of_user declared) UserOf.unique held held' user user' login login'
  obtain ⟨u, p, s⟩ := auth
  obtain ⟨u', p', s'⟩ := auth'
  obtain ⟨v, q, t⟩ := other
  obtain ⟨v', q', t'⟩ := other'
  obtain rfl : s = s' := address
  obtain rfl : t = t' := address'
  simp only [Prod.mk.injEq] at users
  simp only [RegistryLogin.mk.injEq, ← and_assoc, users]

/-- Engines are the same ones when their counterparts are. -/
theorem EnginePair.iff (declared : m ∈ spec.methods) (pairing : m.Pairing P) {x x' y y' : Client}
    (h : EnginePair P x x') (h' : EnginePair P y y') : x = y ↔ x' = y' := by
  cases h with
  | engine handle registry pair =>
    cases h' with
    | engine handle' registry' pair' =>
      rw [Client.engine.injEq, Client.engine.injEq, pair.iff declared pairing pair']

/-- The logins that credentials in place of each other make. -/
theorem loginFor_alike (pairing : m.Pairing P) (held : P a a') (r : ResourceType)
    (resource : Option ResourceId) : Results.Related (LoginPair P)
      (loginFor ⟨spec, m, a, r, resource⟩) (loginFor ⟨spec, m, a', r, resource⟩) := by
  have alike := pairing.alike held
  exact (alike.secret "username").bind fun _ _ user => (alike.secret "password").bind fun _ _ word =>
    .ok ⟨⟨a, a', held, ⟨user.1, word.1⟩, ⟨user.2, word.2⟩⟩, rfl⟩

/-- Logins go on alike. -/
theorem login_alike (pairing : m.Pairing P) (daemon : String) (held : P a a') (r : ResourceType)
    (resource : Option ResourceId) : Routine.Alike (LoginPair P)
      (login daemon ⟨spec, m, a, r, resource⟩) (login daemon ⟨spec, m, a', r, resource⟩) := by
  refine (Routine.Alike.done (loginFor_alike pairing held r resource)).bind fun auth auth' pair => ?_
  refine .ask_through id (fun reply => by cases reply <;> rfl) fun answer => ?_
  cases answer with
  | ok => exact .done (.ok pair)
  | error failure => exact .done (.error _)

/-- Handshakes go on alike. -/
theorem connect_alike (pairing : m.Pairing P) (daemon : String) (held : P a a') (r : ResourceType)
    (resource : Option ResourceId) : Routine.Alike (EnginePair P)
      (connect daemon ⟨spec, m, a, r, resource⟩) (connect daemon ⟨spec, m, a', r, resource⟩) := by
  refine .allocate fun engine => (login_alike pairing daemon held r resource).bind fun _ _ pair => ?_
  rw [pair.address]
  exact .note (.done (.ok (.engine engine _ pair)))

/-- Verifications go on alike. -/
theorem verify_alike (pairing : m.Pairing P) (daemon : String) (held : P a a') (r : ResourceType)
    (resource : Option ResourceId) (discover : Bool) : Routine.Alike Eq
      (verify daemon ⟨spec, m, a, r, resource⟩ discover)
      (verify daemon ⟨spec, m, a', r, resource⟩ discover) := by
  refine .ask_through id (fun reply => Option.map_id'.symm ▸ rfl) fun answer => ?_
  cases answer with
  | error failure => exact .refl _
  | ok =>
    cases resource with
    | none => exact .refl _
    | some id => exact (login_alike pairing daemon held r (some id)).bind fun _ _ _ => .refl _

/-- The runs of the login command that credentials in place of each other make. -/
theorem loginRun_alike (pairing : m.Pairing P) (binary : String) (held : P a a') (r : ResourceType)
    (resource : Option ResourceId) : Results.Related (fun _ _ => True)
      (loginRun binary ⟨spec, m, a, r, resource⟩) (loginRun binary ⟨spec, m, a', r, resource⟩) := by
  have alike := pairing.alike held
  exact (alike.secret "username").bind fun _ _ _ => (alike.secret "password").bind fun _ _ _ => .ok trivial

/-- The set-up of the local command goes on alike. -/
theorem configureLocal_alike (pairing : m.Pairing P) (daemon binary : String) (held : P a a')
    (r : ResourceType) (resource : Option ResourceId) : Routine.Alike Eq
      (configureLocal daemon binary ⟨spec, m, a, r, resource⟩)
      (configureLocal daemon binary ⟨spec, m, a', r, resource⟩) := by
  refine (Routine.Alike.done (loginRun_alike pairing binary held r resource)).bind fun run run' _ => ?_
  refine .ask_through id (fun reply => by cases reply <;> rfl) fun answer => ?_
  cases answer with
  | error failure => exact .refl _
  | ok result => exact .refl _

/-- **The container registries are discreet.** -/
theorem discreet (daemon binary : String) : (connectorType daemon binary).Discreet := by
  intro m declared P pairing
  refine ⟨EnginePair P, fun h h' => h.iff declared pairing h', ?_, ?_, ?_, ?_⟩
  · exact fun held => connect_alike pairing daemon held
  · exact fun held => verify_alike pairing daemon held
  · rintro configure same a a' held
    obtain rfl := Option.some.inj same
    exact configureLocal_alike pairing daemon binary held
  · intro release none
    cases none

end Docker

/-! ## The cloud -/

namespace Cloud

/-- **An interface that does not show access keys**: it goes on alike with others. -/
structure Interface.Discreet (api : Interface) : Prop where
  /-- Asking who the caller is. -/
  identity : ∀ s s' : CloudSession, s.region = s'.region → s.endpoint = s'.endpoint →
    Routine.Alike Eq (api.identity s) (api.identity s')
  /-- Asking for the buckets. -/
  buckets : ∀ s s' : CloudSession, s.region = s'.region → s.endpoint = s'.endpoint →
    Routine.Alike Eq (api.buckets s) (api.buckets s')
  /-- Asking for one bucket. -/
  bucketExists : ∀ s s' : CloudSession, s.region = s'.region → s.endpoint = s'.endpoint →
    ∀ bucket, Routine.Alike Eq (api.bucketExists s bucket) (api.bucketExists s' bucket)

namespace Interface

/-- An interface that has a name is discreet. -/
theorem named_discreet (name : String) : (named name).Discreet where
  identity _ _ _ _ := .ask_through id (fun reply => by cases reply <;> rfl) fun _ => .done (.refl _)
  buckets _ _ _ _ := .ask_through id (fun reply => by cases reply <;> rfl) fun _ => .done (.refl _)
  bucketExists _ _ _ _ _ :=
    .ask_through id (fun reply => by cases reply <;> rfl) fun _ => .done (.refl _)

/-- The interface that makes every call with a client of its own is discreet. -/
theorem direct_discreet : direct.Discreet where
  identity _ _ _ _ := .allocate fun _ =>
    .ask_through id (fun reply => by cases reply <;> rfl) fun _ => .close (.done (.refl _))
  buckets _ _ _ _ := .allocate fun _ => .listing fun _ => .close (.done (.refl _))
  bucketExists _ _ _ _ _ := .allocate fun _ =>
    .ask_through id (fun reply => by cases reply <;> rfl) fun _ => .close (.done (.refl _))

end Interface

variable {m : AuthMethod} {P : Credentials → Credentials → Prop} {a a' : Credentials}

/-- Sessions with credentials in place of each other. -/
structure SessionPair (P : Credentials → Credentials → Prop) (s s' : CloudSession) : Prop where
  /-- The credentials. -/
  credentials : ∃ a a', P a a' ∧ SessionOf a s ∧ SessionOf a' s'
  /-- The region. -/
  region : s.region = s'.region
  /-- The address of a compatible service. -/
  endpoint : s.endpoint = s'.endpoint

/-- Cloud clients of sessions with credentials in place of each other. -/
inductive CloudPair (P : Credentials → Credentials → Prop) : Client → Client → Prop
  /-- The same client of the same service, of sessions that take each other's place. -/
  | cloud (handle : Handle) (kind : CloudClientKind) {s s' : CloudSession} :
      SessionPair P s s' → CloudPair P (.cloud ⟨handle, kind, s⟩) (.cloud ⟨handle, kind, s'⟩)

/-- Cloud clients are the same ones when their counterparts are. -/
theorem CloudPair.iff (declared : m ∈ spec.methods) (pairing : m.Pairing P) {x x' y y' : Client}
    (h : CloudPair P x x') (h' : CloudPair P y y') : x = y ↔ x' = y' := by
  cases h with
  | cloud handle kind pair =>
    cases h' with
    | cloud handle' kind' pair' =>
      obtain ⟨a, a', held, session, session'⟩ := pair.credentials
      obtain ⟨b, b', held', other, other'⟩ := pair'.credentials
      have sessions := pairing.made_iff SessionOf (eq_of_session declared) SessionOf.unique held held'
        session session' other other'
      simp only [Client.cloud.injEq, CloudClient.mk.injEq, sessions]

/-- Sessions differ in the keys only when their credentials differ in secrets only. -/
theorem SessionOf.alike {s s' : CloudSession} (h : SessionOf a s) (h' : SessionOf a' s') (alike : a.Alike a') :
    s.region = s'.region ∧ s.endpoint = s'.endpoint := by
  have region := alike.get?_cases "region"
  have endpoint := alike.get?_cases "endpoint"
  rw [h.region, h'.region] at region
  rw [h.endpoint, h'.endpoint] at endpoint
  constructor
  · simpa [eq_comm] using region
  · cases held : s.endpoint <;> cases held' : s'.endpoint <;> simp_all

/-- The sessions that credentials in place of each other make. -/
theorem sessionOf_alike (declared : m ∈ spec.methods) (pairing : m.Pairing P) (held : P a a') :
    Results.Related (SessionPair P) (sessionOf a) (sessionOf a') := by
  obtain ⟨b, accepted⟩ := pairing.accepted held
  obtain ⟨b', accepted'⟩ := pairing.accepted' held
  obtain ⟨s, read, session⟩ := exists_session declared accepted
  obtain ⟨s', read', session'⟩ := exists_session declared accepted'
  obtain ⟨region, endpoint⟩ := session.alike session' (pairing.alike held)
  rw [read, read']
  exact .ok ⟨⟨a, a', held, session, session'⟩, region, endpoint⟩

variable {api : Interface}

/-- Guarded calls go on alike. -/
theorem guarded_alike {α : Type} {r r' : Routine α} (target : String) (same : Routine.Alike Eq r r') :
    Routine.Alike Eq (guarded target r) (guarded target r') := by
  refine same.attempt fun x y related => ?_
  rw [related.eq]
  exact .refl _

/-- Checks against a target go on alike. -/
theorem probe_alike (discreet : api.Discreet) {s s' : CloudSession} (pair : SessionPair P s s')
    (r : ResourceType) (resource : Option ResourceId) : Routine.Alike Eq
      (probe api ⟨spec, m, a, r, resource⟩ s) (probe api ⟨spec, m, a', r, resource⟩ s') := by
  simp only [probe, pair.region]
  cases resource.bind fun r => (r.part? "bucket").map fun bucket => (r.canonicalId, bucket) with
  | some found => exact guarded_alike _ (discreet.bucketExists s s' pair.region pair.endpoint _)
  | none =>
    refine (guarded_alike _ (discreet.identity s s' pair.region pair.endpoint)).bind ?_
    rintro caller _ rfl
    exact .refl _

/-- Handshakes go on alike. -/
theorem connect_alike (declared : m ∈ spec.methods) (discreet : api.Discreet) (pairing : m.Pairing P)
    (held : P a a') (r : ResourceType) (resource : Option ResourceId) : Routine.Alike (CloudPair P)
      (connect api ⟨spec, m, a, r, resource⟩) (connect api ⟨spec, m, a', r, resource⟩) := by
  refine (Routine.Alike.done (sessionOf_alike declared pairing held)).bind fun s s' pair => ?_
  refine (probe_alike discreet pair r resource).bind fun _ _ _ => ?_
  exact .allocate fun handle => .done (.ok (.cloud handle _ pair))

/-- Verifications go on alike. -/
theorem verify_alike (declared : m ∈ spec.methods) (discreet : api.Discreet) (pairing : m.Pairing P)
    (held : P a a') (r : ResourceType) (resource : Option ResourceId) (discover : Bool) :
    Routine.Alike Eq (verify api ⟨spec, m, a, r, resource⟩ discover)
      (verify api ⟨spec, m, a', r, resource⟩ discover) := by
  refine (Routine.Alike.done (sessionOf_alike declared pairing held)).bind fun s s' pair => ?_
  cases discover with
  | true =>
    refine (guarded_alike _ (discreet.buckets s s' pair.region pair.endpoint)).attempt fun x y related => ?_
    rw [related.eq]
    exact .refl _
  | false =>
    refine (probe_alike discreet pair r resource).attempt fun x y related => ?_
    rw [related.eq]
    exact .refl _

/-- **The cloud is discreet, through an interface that is.** -/
theorem discreet (discreet : api.Discreet) : (connectorType api).Discreet := by
  intro m declared P pairing
  refine ⟨CloudPair P, fun h h' => h.iff declared pairing h', ?_, ?_, ?_, ?_⟩
  · exact fun held => connect_alike declared discreet pairing held
  · exact fun held => verify_alike declared discreet pairing held
  · intro configure none
    cases none
  · rintro release same x x' pair
    obtain rfl := Option.some.inj same
    cases pair with
    | cloud handle kind pair => exact .close (.refl _)

end Cloud

end ServiceAccess
