import ServiceAccess.Proofs.ClientCache.Closed
import ServiceAccess.Proofs.Connector.Storage
import ServiceAccess.Proofs.Connector.Twins
import ServiceAccess.Proofs.Credentials.Identity

/-! # Noninterference of secrets

Nothing that a connector writes depends on the clear text of its secrets, except through the question
whether credentials are still the same ones.

* **`secrets_unseen`** is about bundles that differ in their secrets only: what is written of their
  credentials and connectors is the same, and so is all that is seen of these connectors at work, as far as
  fingerprints tell their credentials apart in the same way.
* **`unseen_iff`** is the second half for a new connector: fingerprints are the only way for a secret to come
  out, and a script that rotates credentials during a handshake does bring them out.
* **`not_unseen_infinities`** is a pair of runs that do differ, for both infinities are hashed alike. -/

namespace ServiceAccess

/-! ## Telling fingerprints apart -/

namespace ClientCache

variable {ρ κ ε : Type} {c : ClientCache ρ κ ε} {key f : String}

/-- A flight is under way for a key that has no stored client. -/
def Flying (c : ClientCache ρ κ ε) (key f : String) : Prop :=
  c.entries.get? key = none ∧ ∃ g, c.flights.get? key = some ⟨f, g⟩

/-- The first call for a key sets a flight off. -/
theorem flying_acquire (absent : c.entries.get? key = none) (idle : c.flights.get? key = none)
    (f : String) (request : ρ) : Flying (c.acquire key f request).1 key f := by
  constructor <;> simp [acquire, absent, idle, start, connect, enter, revise]

/-- A rotation leaves flights alone. -/
theorem Flying.evictStale (h : Flying c key f) (fingerprint : String) :
    Flying (c.evictStale fingerprint).1 key f := by
  obtain ⟨absent, g, flight⟩ := h
  simp only [ClientCache.evictStale, sweepOut_eq]
  exact ⟨by simp [absent], g, flight⟩

/-- A call joins a flight exactly when it builds with the same fingerprint. -/
theorem Flying.note (h : Flying c key f) (f' : String) (request : ρ) :
    (c.acquire key f' request).2.head?
      = some (.note (if f = f' then .joined key else .missed key)) := by
  obtain ⟨absent, g, flight⟩ := h
  by_cases same : f = f'
  · have usable : (c.flights.get? key).filter (fun e => decide (e.fingerprint = f')) = some ⟨f, g⟩ := by
      simp [flight, same]
    simp only [acquire, absent, usable, if_pos same]
    rfl
  · have unusable : (c.flights.get? key).filter (fun e => decide (e.fingerprint = f')) = none := by
      simp [flight, same]
    simp only [acquire, absent, unusable, if_neg same, start, connect]
    rfl

end ClientCache

namespace Connector

variable {ι : Type} {bundles : ι → Bundle} {a : Activity} {c c' : Connector}

namespace Activity

/-- A log line that a step of the connector begins with is seen first. -/
theorem head_advance {i : Input} {line : LogLine} (first : (a.connector.step i).2.head? = some (.log line)) :
    (a.advance i).2.head? = some (.line line) := by
  rw [advance]
  generalize a.connector.step i = turn at first ⊢
  obtain ⟨c, effects⟩ := turn
  cases effects with
  | nil => cases first
  | cons e rest =>
    obtain rfl : e = .log line := Option.some.inj first
    rfl

end Activity

theorem step_rotate {b : Bundle} {credentials : Credentials}
    (accepted : Credentials.parse c.method b = .ok credentials) :
    c.step (.rotate b) = c.adopt credentials := by
  rw [step, rotate, accepted]
  rfl

theorem step_connect {r : Option String} {resource : Option ResourceId}
    (target : c.target r = .ok resource) : c.step (.connect r) = c.acquire resource := by
  rw [step, connect, target]
  rfl

namespace Activity

theorem connector_step_rotate {i : ι} {credentials : Credentials}
    (accepted : Credentials.parse a.connector.method (bundles i) = .ok credentials) :
    (a.step bundles (.rotate i)).1.connector = (a.connector.adopt credentials).1 := by
  rw [← step_rotate accepted]
  exact connector_advance _ _

theorem connector_step_connect {r : Option String} {resource : Option ResourceId}
    (target : a.connector.target r = .ok resource) :
    (a.step bundles (.connect r)).1.connector = (a.connector.acquire resource).1 := by
  rw [← step_connect target]
  exact connector_advance _ _

end Activity

/-- A report that a step of the cache begins with is logged first. -/
theorem head_withCache {turn : ClientCache.Turn Context Client Failure} {n : ClientCache.Note}
    (first : turn.2.head? = some (.note n)) :
    (c.withCache turn).2.head? = some (.log (c.line .info n.text)) := by
  obtain ⟨cache, effects⟩ := turn
  cases effects with
  | nil => cases first
  | cons e rest =>
    obtain rfl : e = .note n := Option.some.inj first
    rfl

/-- A client is wanted with one bundle and again with another one, while the first handshake is under way. -/
def overtaking (i j : ι) (r : Option String) : List (Cue ι) :=
  [.rotate i, .connect r, .rotate j, .connect r]

/-- **Whether the second call joins the first one is logged.** -/
theorem head_overtaking {disposes : Bool} (new : c.cache = .empty disposes) {i j : ι}
    {credentials credentials' : Credentials}
    (accepted : Credentials.parse c.method (bundles i) = .ok credentials)
    (accepted' : Credentials.parse c.method (bundles j) = .ok credentials')
    {r : Option String} {resource : Option ResourceId} (target : c.target r = .ok resource) :
    ((sights bundles c (overtaking i j r)).getLast?.bind fun moment => moment.2.head?)
      = some (.line (c.line .info (if credentials.fingerprint = credentials'.fingerprint
          then ClientCache.Note.joined (keyOf resource) else .missed (keyOf resource)).text)) := by
  have one : ((Activity.idle c).step bundles (.rotate i)).1.connector = (c.adopt credentials).1 :=
    Activity.connector_step_rotate accepted
  generalize first : ((Activity.idle c).step bundles (.rotate i)).1 = a₁ at one
  have two : (a₁.step bundles (.connect r)).1.connector = (a₁.connector.acquire resource).1 :=
    Activity.connector_step_connect (one ▸ target)
  generalize second : (a₁.step bundles (.connect r)).1 = a₂ at two
  have three : (a₂.step bundles (.rotate j)).1.connector = (a₂.connector.adopt credentials').1 :=
    Activity.connector_step_rotate (by rw [two, one]; exact accepted')
  generalize third : (a₂.step bundles (.rotate j)).1 = a₃ at three
  have flying : ClientCache.Flying a₃.connector.cache (keyOf resource) credentials.fingerprint := by
    have set : ClientCache.Flying a₂.connector.cache (keyOf resource) credentials.fingerprint := by
      rw [two, one]
      exact ClientCache.flying_acquire (by rw [adopt, new]; rfl) (by rw [adopt, new]; rfl) _ _
    rw [three]
    exact set.evictStale _
  -- the last call is logged with what the cache reports of it
  have noted := head_withCache (c := a₃.connector)
    (flying.note a₃.connector.fingerprint (a₃.connector.context resource))
  have last : (a₃.connector.step (.connect r)).2.head? = some (.log (c.line .info
      (if credentials.fingerprint = credentials'.fingerprint
        then ClientCache.Note.joined (keyOf resource) else .missed (keyOf resource)).text)) := by
    rw [step_connect (by rw [three, two, one]; exact target)]
    rw [three, two, one] at noted ⊢
    exact noted
  have moments : (sights bundles c (overtaking i j r)).getLast?
      = some (.connect r, (a₃.step bundles (.connect r)).2) := by
    simp only [sights, overtaking, Run.trace_cons, Run.trace_nil, first, second, third]
    rfl
  rw [moments, Option.bind_some, Activity.step, List.head?_append, Activity.handle,
    Activity.head_advance last, Option.some_or]

/-- Log lines that say the same are the same. -/
theorem line_inj {level : Level} {message message' : String}
    (same : c.line level message = c.line level message') : message = message' := by
  simpa [line] using same

/-- Joining a flight and setting one off are different reports. -/
theorem joined_ne_missed (key : String) :
    (ClientCache.Note.joined key).text ≠ (ClientCache.Note.missed key).text := by
  show "joining in-flight connection for " ++ key ≠ "cache miss for " ++ key ++ ", connecting"
  intro same
  have length := congrArg String.length same
  simp only [String.length_append] at length
  have words : "joining in-flight connection for ".length = 33 ∧ "cache miss for ".length = 15 ∧
      ", connecting".length = 12 := by decide
  omega

/-! ## Twins at work -/

/-- Some call of a connector has a target. -/
def Callable (c : Connector) : Prop := ∃ r resource, c.target r = .ok resource

/-- **Nothing that is seen tells the clear text of secrets**: whatever the script is, what is seen is the same
with the one family of bundles and with the other. -/
def Twins.Unseen {type : ConnectorType} (T : Twins type ι) (c c' : Connector) : Prop :=
  ∀ script, sights T.first c script = sights T.second c' script

variable {type : ConnectorType} {logger : Logger}

/-- Settings with other accepted credentials make a connector that differs in these only, or fail alike. -/
theorem make_related {settings : ConnectorSettings} {m : AuthMethod} {b b' : Bundle} {x x' : Credentials}
    (found : type.spec.method? settings.method = some m) (logger : Logger)
    (accepted : Credentials.parse m b = .ok x) (accepted' : Credentials.parse m b' = .ok x') :
    Results.Related (fun c c' => ∃ r resource, c = fresh type settings.name logger m r x resource ∧
        c' = fresh type settings.name logger m r x' resource)
      (make? type { settings with bundle := b } logger)
      (make? type { settings with bundle := b' } logger) := by
  cases selected : selectResourceType type.spec m.id settings.resourceType with
  | error problem =>
    have failed : ∀ b, make? type { settings with bundle := b } logger
        = .error (.configuration problem none) := fun b => by
      rw [make?, found]
      simp only [selected]
    rw [failed, failed]
    exact .error _
  | ok r =>
    have made := fun b => @make?_eq type { settings with bundle := b } logger m r found selected
    rw [made, made]
    simp only [accepted, accepted', Except.bind]
    cases settings.resourceId.mapM (readTarget type r) with
    | error failure => exact .error failure
    | ok resource => exact .ok ⟨r, resource, rfl, rfl⟩

section

variable {T : Twins type ι} {i : ι} {name : Option String} {r : ResourceType}
  {resource : Option ResourceId}

/-- New connectors with credentials that are counterparts are twins. -/
theorem twin_fresh {R : Client → Client → Prop} (veils : type.Veils T.method T.Pair R)
    (apart : (fresh type name logger T.method r (T.one i) resource).Callable → T.Distinguished) :
    Twin veils apart (fresh type name logger T.method r (T.one i) resource)
      (fresh type name logger T.method r (T.two i) resource) where
  type := rfl
  method := rfl
  keeps := ⟨rfl, rfl, rfl, rfl⟩
  name := rfl
  current := ⟨i, ⟨rfl, rfl⟩, rfl, rfl⟩
  cache := .empty _
  able r resource target := ⟨r, resource, target⟩

/-- Where fingerprints can come in, what is seen tells whether they are the same. -/
theorem distinguished_of_unseen
    (unseen : T.Unseen (fresh type name logger T.method r (T.one i) resource)
      (fresh type name logger T.method r (T.two i) resource))
    (callable : (fresh type name logger T.method r (T.one i) resource).Callable) : T.Distinguished := by
  intro j k
  obtain ⟨target, found, target_eq⟩ := callable
  have heard := head_overtaking (c := fresh type name logger T.method r (T.one i) resource) rfl
    (T.accepted j) (T.accepted k) target_eq
  have heard' := head_overtaking (c := fresh type name logger T.method r (T.two i) resource) rfl
    (T.accepted' j) (T.accepted' k) target_eq
  rw [unseen, heard', Option.some.injEq, Sight.line.injEq] at heard
  have said := line_inj heard
  have apart := joined_ne_missed (keyOf found)
  by_cases same : (T.one j).fingerprint = (T.one k).fingerprint <;>
    by_cases same' : (T.two j).fingerprint = (T.two k).fingerprint <;>
    simp [same, same', apart, apart.symm] at said ⊢

/-- **Secrets are unseen exactly when fingerprints tell credentials apart in the same way**, or no call can
be made. -/
theorem unseen_iff (discreet : type.Discreet) :
    T.Unseen (fresh type name logger T.method r (T.one i) resource)
      (fresh type name logger T.method r (T.two i) resource) ↔
    ((fresh type name logger T.method r (T.one i) resource).Callable → T.Distinguished) := by
  constructor
  · exact distinguished_of_unseen
  · intro apart script
    obtain ⟨R, veils⟩ := discreet T.method T.declared T.Pair T.pairing
    have idle : Activity.Twin veils apart
        (.idle (fresh type name logger T.method r (T.one i) resource))
        (.idle (fresh type name logger T.method r (T.two i) resource)) :=
      ⟨twin_fresh veils apart, .empty, rfl, rfl⟩
    exact idle.trace script

end

/-- **Fingerprints tell finite credentials apart**, unless two texts collide. -/
theorem Twins.distinguished_of_finite (T : Twins type ι) (finite : ∀ i, (T.one i).Finite)
    (apart : ∀ i j, ¬ (T.one i).Collide (T.one j) ∧ ¬ (T.two i).Collide (T.two j)) :
    T.Distinguished := by
  intro i j
  have finite' := fun i => (T.alike i).finite (finite i)
  rw [Credentials.fingerprint_eq_iff_eq (T.accepted i) (T.accepted j) (finite i) (finite j) (apart i j).1,
    Credentials.fingerprint_eq_iff_eq (T.accepted' i) (T.accepted' j) (finite' i) (finite' j)
      (apart i j).2]
  exact T.pattern i j

/-! ## Noninterference -/

/-- The connector types: container registries, the cloud, and every other one that is discreet. -/
inductive Covered : ConnectorType → Prop
  /-- Container registries. -/
  | docker (daemon binary : String) : Covered (Docker.connectorType daemon binary)
  /-- The cloud, through clients of its own. -/
  | direct : Covered (Cloud.connectorType .direct)
  /-- The cloud, through an interface with a name. -/
  | named (interface : String) : Covered (Cloud.connectorType (.named interface))
  /-- A discreet type. -/
  | custom {type : ConnectorType} : type.Discreet → Covered type

theorem Covered.discreet {type : ConnectorType} (h : Covered type) : type.Discreet := by
  cases h with
  | docker daemon binary => exact Docker.discreet daemon binary
  | direct => exact Cloud.discreet Cloud.Interface.direct_discreet
  | named interface => exact Cloud.discreet (Cloud.Interface.named_discreet interface)
  | custom discreet => exact discreet

/-- **Noninterference of secrets.** Bundles that differ in their secrets only are accepted as credentials
that are written in the same way, and they make connectors that are. At work these connectors show the
same whatever happens exactly when fingerprints tell the successive credentials apart in the same way, or no
call can be made; and so they do for finite credentials whose texts do not collide. -/
theorem secrets_unseen (type : ConnectorType) (settings : ConnectorSettings) (logger : Logger) :
    (∀ (m : AuthMethod) (b b' : Bundle) (x x' : Credentials), Credentials.parse m b = .ok x →
      Credentials.parse m b' = .ok x' → m.AgreeInClear b b' →
      (x.fields = x'.fields ∧ x.masked = x'.masked ∧ x.plainJson = x'.plainJson) ∧
      (type.spec.method? settings.method = some m →
        Results.Related (fun c c' => c.toJson = c'.toJson ∧ c.record false = c'.record false)
          (make? type { settings with bundle := b } logger)
          (make? type { settings with bundle := b' } logger))) ∧
    ∀ (ι : Type) (T : Twins type ι) (i : ι) (c : Connector), Covered type →
      type.spec.method? settings.method = some T.method →
      make? type { settings with bundle := T.first i } logger = .ok c →
      ∃ c', make? type { settings with bundle := T.second i } logger = .ok c' ∧
        (T.Unseen c c' ↔ (c.Callable → T.Distinguished)) ∧
        ((∀ i, (T.one i).Finite) →
          (∀ i j, ¬ (T.one i).Collide (T.one j) ∧ ¬ (T.two i).Collide (T.two j)) →
          T.Unseen c c') := by
  constructor
  · intro m b b' x x' accepted accepted' agree
    have alike := Credentials.alike_of_accepted accepted accepted' agree
    refine ⟨alike.shown, fun found => ?_⟩
    have made := make_related found logger accepted accepted'
    generalize make? type { settings with bundle := b } logger = one at made ⊢
    generalize make? type { settings with bundle := b' } logger = two at made ⊢
    cases made with
    | error failure => exact .error failure
    | ok same =>
      obtain ⟨r, resource, rfl, rfl⟩ := same
      exact .ok (shown_of_alike ⟨rfl, rfl, rfl, rfl⟩ rfl alike)
  · -- the twin of a connector that is made is made, and from there on they go side by side
    intro ι T i c covered found made
    have related := make_related found logger (T.accepted i) (T.accepted' i)
    rw [made] at related
    generalize make? type { settings with bundle := T.second i } logger = two at related ⊢
    cases related with
    | ok same =>
      obtain ⟨r, resource, rfl, rfl⟩ := same
      refine ⟨_, rfl, unseen_iff covered.discreet, fun finite apart => ?_⟩
      exact (unseen_iff covered.discreet).2 fun _ => T.distinguished_of_finite finite apart

/-! ## Passwords -/

/-- The auth method of container registries. -/
def passwordMethod : AuthMethod := Docker.spec.methods.head (List.cons_ne_nil _ _)

/-- A user with a password. -/
def login (user word : String) : Bundle :=
  .ofList [("username", .value (.str user)), ("password", .value (.str word))]

/-- The credentials of a user with a password. -/
def loggedIn (user word : String) : Credentials :=
  ⟨"password", .ofList [("username", .secret ⟨user⟩), ("password", .secret ⟨word⟩)]⟩

theorem eq_loggedIn {user word : String} {x : Credentials}
    (accepted : Credentials.parse passwordMethod (login user word) = .ok x) : x = loggedIn user word := by
  obtain ⟨-, -, rfl⟩ := Credentials.parse_eq_ok_iff.1 accepted
  refine congrArg (Credentials.mk "password") (Table.ext ?_)
  show [("username", FieldValue.secret ⟨(Scalar.text user).display⟩),
    ("password", FieldValue.secret ⟨(Scalar.text word).display⟩)] = _
  rw [Scalar.display_text, Scalar.display_text]
  rfl

theorem loggedIn_inj {user word word' : String} : loggedIn user word = loggedIn user word' ↔ word = word' := by
  constructor
  · intro same
    have held : some (FieldValue.secret ⟨word⟩) = some (.secret ⟨word'⟩) :=
      congrArg (fun x : Credentials => x.get? "password") same
    simpa using held
  · rintro rfl
    rfl

/-- Users with passwords agree in the clear, for all fields are secrets. -/
theorem agree_login (user word user' word' : String) :
    passwordMethod.AgreeInClear (login user word) (login user' word') := by
  refine AuthMethod.agreeInClear_of_keys fun field here => ?_
  rcases List.mem_pair.1 here with rfl | rfl <;> exact .inr ⟨rfl, rfl⟩

/-- The password is hashed before the user. -/
theorem sorted_loggedIn (user word : String) :
    (loggedIn user word).sorted = [("password", .text word), ("username", .text user)] := by
  have values : (loggedIn user word).revealed.entries
      = [("username", .text user), ("password", .text word)] := rfl
  rw [Credentials.sorted_pair values, if_neg (by decide)]

/-- Two users of a container registry, each with an old and a new password. -/
def passwords : Twins (Docker.connectorType "daemon" "docker") Bool where
  method := passwordMethod
  declared := List.head_mem _
  first new := login "ann" (if new then "new" else "old")
  second new := login "bob" (if new then "red" else "blue")
  one new := loggedIn "ann" (if new then "new" else "old")
  two new := loggedIn "bob" (if new then "red" else "blue")
  accepted new := by
    obtain ⟨x, accepted⟩ : ∃ x, Credentials.parse passwordMethod
        (login "ann" (if new then "new" else "old")) = .ok x := by cases new <;> exact ⟨_, rfl⟩
    rw [accepted, eq_loggedIn accepted]
  accepted' new := by
    obtain ⟨x, accepted⟩ : ∃ x, Credentials.parse passwordMethod
        (login "bob" (if new then "red" else "blue")) = .ok x := by cases new <;> exact ⟨_, rfl⟩
    rw [accepted, eq_loggedIn accepted]
  agree _ := agree_login ..
  pattern i j := by cases i <;> cases j <;> simp [loggedIn_inj]

/-- The passwords do not collide. -/
theorem apart_passwords (i j : Bool) : ¬ (passwords.one i).Collide (passwords.one j) ∧
    ¬ (passwords.two i).Collide (passwords.two j) := by
  have ann : (loggedIn "ann" "old").fingerprint ≠ (loggedIn "ann" "new").fingerprint := by
    simp only [Credentials.fingerprint, Credentials.fingerprintText_eq, sorted_loggedIn]
    decide +kernel
  have bob : (loggedIn "bob" "blue").fingerprint ≠ (loggedIn "bob" "red").fingerprint := by
    simp only [Credentials.fingerprint, Credentials.fingerprintText_eq, sorted_loggedIn]
    decide +kernel
  constructor <;> rintro ⟨text, same⟩ <;> cases i <;> cases j
  · exact text rfl
  · exact ann same
  · exact ann same.symm
  · exact text rfl
  · exact text rfl
  · exact bob same
  · exact bob same.symm
  · exact text rfl

/-- What is seen of a connector with the passwords of the one user is seen with those of the other. -/
theorem secrets_unseen_passwords : ∃ c c',
    make? (Docker.connectorType "daemon" "docker")
      { registrySettings with bundle := passwords.first false } .silent = .ok c ∧
    make? (Docker.connectorType "daemon" "docker")
      { registrySettings with bundle := passwords.second false } .silent = .ok c' ∧
    c.toJson = c'.toJson ∧ passwords.Unseen c c' := by
  obtain ⟨c, made⟩ : ∃ c, make? (Docker.connectorType "daemon" "docker")
    { registrySettings with bundle := passwords.first false } .silent = .ok c := ⟨_, rfl⟩
  obtain ⟨static, dynamic⟩ :=
    secrets_unseen (Docker.connectorType "daemon" "docker") registrySettings .silent
  obtain ⟨c', made', -, unseen⟩ := dynamic Bool passwords false c (.docker _ _) rfl made
  have written := (static _ _ _ _ _ (passwords.accepted false) (passwords.accepted' false)
    (passwords.agree false)).2 rfl
  rw [made, made'] at written
  cases written with
  | ok same =>
    refine ⟨c, c', made, made', same.1, unseen (fun i => ?_) apart_passwords⟩
    exact Credentials.finite_of_guarded (guarded_docker _ passwords.declared) (passwords.accepted i)

/-! ## Infinities -/

/-- The auth method of the service that takes a weight of any kind. -/
def looseMethod : AuthMethod := weighing.spec.methods.head (List.cons_ne_nil _ _)

/-- A token and an infinite weight. -/
def weighed (token : String) (negative : Bool) : Bundle :=
  .ofList [("token", .value (.str token)), ("weight", .value (.num (.infinite negative)))]

/-- The credentials of a token and an infinite weight. -/
def weighedAs (token : String) (negative : Bool) : Credentials :=
  ⟨"loose", .ofList [("token", .secret ⟨token⟩), ("weight", .plain (.number (.infinite negative)))]⟩

theorem eq_weighedAs {token : String} {negative : Bool} {x : Credentials}
    (accepted : Credentials.parse looseMethod (weighed token negative) = .ok x) :
    x = weighedAs token negative := by
  obtain ⟨-, -, rfl⟩ := Credentials.parse_eq_ok_iff.1 accepted
  refine congrArg (Credentials.mk "loose") (Table.ext ?_)
  show [("token", FieldValue.secret ⟨(Scalar.text token).display⟩),
    ("weight", FieldValue.plain (.number (.infinite negative)))] = _
  rw [Scalar.display_text]
  rfl

theorem parse_weighed (other negative : Bool) :
    Credentials.parse looseMethod (weighed (if other then "t" else "s") negative)
      = .ok (weighedAs (if other then "t" else "s") negative) := by
  obtain ⟨x, accepted⟩ : ∃ x, Credentials.parse looseMethod
      (weighed (if other then "t" else "s") negative) = .ok x := by
    cases other <;> cases negative <;> exact ⟨_, rfl⟩
  rw [accepted, eq_weighedAs accepted]

/-- Tokens with the same weight agree in the clear. -/
theorem agree_weighed (token token' : String) (negative : Bool) :
    looseMethod.AgreeInClear (weighed token negative) (weighed token' negative) := by
  refine AuthMethod.agreeInClear_of_keys fun field here => ?_
  rcases List.mem_pair.1 here with rfl | rfl
  · exact .inr ⟨rfl, rfl⟩
  · exact .inl rfl

theorem weighedAs_inj {token token' : String} {negative negative' : Bool}
    (same : weighedAs token negative = weighedAs token' negative') : negative = negative' := by
  have held : some (FieldValue.plain (.number (.infinite negative)))
      = some (.plain (.number (.infinite negative'))) :=
    congrArg (fun x : Credentials => x.get? "weight") same
  simpa using held

/-- Both infinities are hashed alike. -/
theorem fingerprintText_weighedAs (token : String) (negative negative' : Bool) :
    (weighedAs token negative).fingerprintText = (weighedAs token negative').fingerprintText :=
  Credentials.text_congr rfl rfl

/-- Two infinite weights: in the one family with the same token, in the other with two tokens. -/
def infinities : Twins weighing Bool where
  method := looseMethod
  declared := List.head_mem _
  first negative := weighed "s" negative
  second negative := weighed (if negative then "t" else "s") negative
  one negative := weighedAs "s" negative
  two negative := weighedAs (if negative then "t" else "s") negative
  accepted negative := parse_weighed false negative
  accepted' negative := parse_weighed negative negative
  agree _ := agree_weighed ..
  pattern i j := by
    constructor
    · intro same
      rw [weighedAs_inj same]
    · intro same
      rw [weighedAs_inj same]

/-- The token is hashed before the weight. -/
theorem sorted_weighedAs (token : String) (negative : Bool) : (weighedAs token negative).sorted
    = [("token", .text token), ("weight", .number (.infinite negative))] := by
  have values : (weighedAs token negative).revealed.entries
      = [("token", .text token), ("weight", .number (.infinite negative))] := rfl
  rw [Credentials.sorted_pair values, if_pos (by decide)]

/-- Fingerprints do not tell the infinities apart, but they do so for the tokens. -/
theorem not_distinguished_infinities : ¬ infinities.Distinguished := by
  intro distinguished
  have tokens : (weighedAs "s" false).fingerprint ≠ (weighedAs "t" true).fingerprint := by
    simp only [Credentials.fingerprint, Credentials.fingerprintText_eq, sorted_weighedAs]
    decide +kernel
  have weights : (weighedAs "s" false).fingerprint = (weighedAs "s" true).fingerprint :=
    congrArg Digest.sha256 (fingerprintText_weighedAs "s" false true)
  exact tokens ((distinguished false true).1 weights)

/-- No routine of the service looks at its credentials. -/
theorem discreet_weighing : weighing.Discreet := by
  intro m _ P _
  refine ⟨Eq, ?_, fun _ _ _ => .refl _, fun _ _ _ _ => .refl _, ?_, ?_⟩
  · rintro x _ y _ rfl rfl
    rfl
  · intro configure none
    cases none
  · intro release none
    cases none

/-- **A secret is seen where fingerprints do not tell credentials apart**: a rotation from one infinity to
the other is noticed with two tokens and goes unnoticed with one. -/
theorem not_unseen_infinities : Covered weighing ∧ ∃ c c',
    make? weighing { weighingSettings (.infinite false) with bundle := infinities.first false } .silent
      = .ok c ∧
    make? weighing { weighingSettings (.infinite false) with bundle := infinities.second false } .silent
      = .ok c' ∧ ¬ infinities.Unseen c c' := by
  refine ⟨.custom discreet_weighing, ?_⟩
  obtain ⟨c, made, target⟩ : ∃ c, make? weighing
    { weighingSettings (.infinite false) with bundle := infinities.first false } .silent = .ok c ∧
      c.target none = .ok none := ⟨_, rfl, rfl⟩
  obtain ⟨c', made'⟩ : ∃ c', make? weighing
    { weighingSettings (.infinite false) with bundle := infinities.second false } .silent = .ok c' := ⟨_, rfl⟩
  have found : weighing.spec.method? (weighingSettings (.infinite false)).method = some looseMethod := rfl
  have related := make_related found .silent (infinities.accepted false) (infinities.accepted' false)
  rw [made, made'] at related
  cases related with
  | ok same =>
    obtain ⟨r, resource, rfl, rfl⟩ := same
    refine ⟨_, _, made, made', fun unseen => not_distinguished_infinities ?_⟩
    exact distinguished_of_unseen unseen ⟨none, none, target⟩

end Connector

end ServiceAccess
