import Mathlib.Data.List.ReduceOption
import ServiceAccess.Connector.Verification
import ServiceAccess.Proofs.Connector.Validity
import ServiceAccess.Proofs.Credentials.Pattern
import ServiceAccess.Proofs.Provider.Session
import ServiceAccess.Proofs.Routine
import ServiceAccess.Proofs.Routine.Deeds

/-! # Settings of the cloud in the surroundings

An environment that has both access keys decides by itself what a request comes to: nothing else is asked, in
particular no shared profile.

* **`Cloud.Prospect`**: what a request comes to. **`Prospect.Fits`**: when a connector can be made of it.
* **`Cloud.autoConfigure_exact`**: exactly then there is one, and it has what was found and nothing else. -/

namespace ServiceAccess

namespace Cloud

/-! ## What a request comes to -/

/-- A variable of the environment is set to a text that is not empty. -/
def Sets (request : AutoConfigureRequest) (name value : String) : Prop :=
  request.env.get? name = some value ∧ value ≠ ""

/-- **What a request comes to** in surroundings with access keys. -/
structure Prospect where
  /-- The public part of the keys. -/
  accessKeyId : String
  /-- The secret part of the keys. -/
  secretAccessKey : String
  /-- The session token. -/
  sessionToken : Option String
  /-- The address of a compatible service. -/
  endpoint : Option String
  /-- The region. -/
  region : String
  /-- The auth method. -/
  method : String
  /-- The resource type. -/
  resourceType : String

namespace Prospect

/-- **Where it comes from.** -/
structure Of (p : Prospect) (request : AutoConfigureRequest) : Prop where
  /-- The keys are in the environment. -/
  accessKeyId : Sets request "AWS_ACCESS_KEY_ID" p.accessKeyId
  /-- Both of them. -/
  secretAccessKey : Sets request "AWS_SECRET_ACCESS_KEY" p.secretAccessKey
  /-- There may be a session token. -/
  sessionToken : ∀ token, p.sessionToken = some token ↔ Sets request "AWS_SESSION_TOKEN" token
  /-- And an endpoint. -/
  endpoint : ∀ address, p.endpoint = some address ↔ Sets request "AWS_ENDPOINT_URL" address
  /-- The region is the first one that there is, also when it is empty. -/
  region : p.region = [request.region, request.env.get? "AWS_REGION",
    request.env.get? "AWS_DEFAULT_REGION"].reduceOption.headD "us-east-1"
  /-- A session token makes the keys temporary. -/
  method : p.method = if p.sessionToken.isSome then "sts-token" else "secret-key"
  /-- Resource IDs are those of buckets. -/
  resourceType : p.resourceType =
    request.resourceType.getD (if request.resourceId.isSome then "s3-bucket" else "aws-generic")

/-- **When a connector can be made of it.** -/
structure Fits (p : Prospect) (request : AutoConfigureRequest) : Prop where
  /-- No other auth method is wanted. -/
  method : ∀ m, request.method = some m → m = p.method
  /-- The resource type that is wanted is declared. -/
  resourceType : ∀ t, request.resourceType = some t → t = "aws-generic" ∨ t = "s3-bucket"
  /-- The region is one. -/
  region : Pattern.IsRegion p.region.toList
  /-- The endpoint starts like a web address. -/
  endpoint : ∀ address, p.endpoint = some address →
    "http://".toList <+: address.toList ∨ "https://".toList <+: address.toList
  /-- The resource that is wanted is a bucket. -/
  resourceId : ∀ raw, request.resourceId = some raw →
    p.resourceType = "s3-bucket" ∧ ∃ id, Bucket.resolver.parse raw = .ok id

/-- **What the connector has.** -/
structure Makes (p : Prospect) (request : AutoConfigureRequest) (c : Connector) : Prop where
  /-- The auth method. -/
  method : c.method.id = p.method
  /-- The resource type. -/
  resourceType : c.resourceType.id = p.resourceType
  /-- The resource that is wanted, in its canonical spelling. -/
  resource : request.resourceId.mapM Bucket.resolver.parse = .ok c.resource
  /-- The fields of the credentials, and no other. -/
  values : c.credentials.values.entries =
    [("region", .plain (.text p.region)), ("accessKeyId", .secret ⟨p.accessKeyId⟩),
      ("secretAccessKey", .secret ⟨p.secretAccessKey⟩)]
    ++ (p.endpoint.map fun address => ("endpoint", .plain (.text address))).toList
    ++ (p.sessionToken.map fun token => ("sessionToken", .secret ⟨token⟩)).toList

end Prospect

variable {request : AutoConfigureRequest} {p : Prospect} {name value : String}

theorem lookup?_eq_some_iff : request.lookup? name = some value ↔ Sets request name value := by
  rw [AutoConfigureRequest.lookup?, Option.filter_eq_some_iff, Sets]
  simp

/-- With access keys in the environment a request comes to something. -/
theorem exists_prospect {id key : String} (hasId : Sets request "AWS_ACCESS_KEY_ID" id)
    (hasKey : Sets request "AWS_SECRET_ACCESS_KEY" key) : ∃ p : Prospect, p.Of request :=
  ⟨⟨id, key, request.lookup? "AWS_SESSION_TOKEN", request.lookup? "AWS_ENDPOINT_URL", _,
      if (request.lookup? "AWS_SESSION_TOKEN").isSome then "sts-token" else "secret-key", _⟩,
    hasId, hasKey, fun _ => lookup?_eq_some_iff, fun _ => lookup?_eq_some_iff, rfl, rfl, rfl⟩

namespace Prospect

/-! ## Fields -/

/-- The credentials that it makes. -/
def bundle (p : Prospect) : Bundle :=
  .ofList ([("region", .value (.str p.region)), ("accessKeyId", .value (.str p.accessKeyId)),
      ("secretAccessKey", .value (.str p.secretAccessKey))]
    ++ (p.sessionToken.map fun token => ("sessionToken", .value (.str token))).toList
    ++ (p.endpoint.map fun address => ("endpoint", .value (.str address))).toList)

/-- The fields of its auth method. -/
def fields (p : Prospect) : List (String × FieldRule) :=
  keyFields ++ (p.sessionToken.map fun _ => ("sessionToken", .secretText (some "AWS session token"))).toList

/-- These are the fields of a schema that has them. -/
theorem entries_of_schema (p : Prospect) {s : Schema}
    (schema : s = { fields := .ofList p.fields, additional := some false }) : s.fields.entries = p.fields := by
  have distinct : (p.fields.map Prod.fst).Nodup := by
    obtain ⟨_, _, _ | _, _, _, _, _⟩ := p <;> simp [fields, keyFields]
  rw [schema]
  exact Table.entries_ofList distinct

/-- Its auth method is declared, with these fields and no other. -/
theorem Of.exists_method (h : p.Of request) : ∃ m, spec.method? p.method = some m ∧ m.id = p.method ∧
    m.schema = { fields := .ofList p.fields, additional := some false } := by
  obtain ⟨_, _, token, _, _, method, _⟩ := p
  have fits : method = if token.isSome then "sts-token" else "secret-key" := h.method
  subst fits
  cases token with
  | none => exact ⟨_, rfl, rfl, rfl⟩
  | some token => exact ⟨_, rfl, rfl, rfl⟩

/-- The values that the fields take. -/
theorem value?_bundle (p : Prospect) :
    (∀ rule, Schema.value? p.bundle.given "region" rule = some (.own (.str p.region))) ∧
    (∀ rule, Schema.value? p.bundle.given "accessKeyId" rule = some (.own (.str p.accessKeyId))) ∧
    (∀ rule, Schema.value? p.bundle.given "secretAccessKey" rule = some (.own (.str p.secretAccessKey))) ∧
    (∀ rule, Schema.value? p.bundle.given "endpoint" rule = (p.endpoint.map Json.str <|> rule.default).map .own) ∧
    ∀ rule, Schema.value? p.bundle.given "sessionToken" rule
      = (p.sessionToken.map Json.str <|> rule.default).map .own := by
  obtain ⟨_, _, token, endpoint, _, _, _⟩ := p
  refine ⟨?_, ?_, ?_, ?_, ?_⟩ <;> intro rule <;> cases token <;> cases endpoint <;> rfl

/-- The keys of the credentials. -/
theorem keys_bundle (p : Prospect) : p.bundle.given.keys = ["region", "accessKeyId", "secretAccessKey"]
    ++ (p.sessionToken.map fun _ => "sessionToken").toList ++ (p.endpoint.map fun _ => "endpoint").toList := by
  obtain ⟨_, _, token, endpoint, _, _, _⟩ := p
  cases token <;> cases endpoint <;> rfl

/-- A text field with a pattern takes what the pattern accepts. -/
theorem takes_pattern_iff {d : Option String} {pattern : Pattern} {o : Bool} {default : Option Json}
    {field s : String} : (⟨d, .text none none (some pattern), false, o, default⟩ : FieldRule).Takes field
      (some (.own (.str s))) ↔ pattern.accepts s = true := by
  simp [FieldRule.Takes, Kind.problems, Kind.textFaults, Scalar.ofJson?, Option.filter_some]

/-- A field for a secret takes texts that are not empty. -/
theorem takes_secretText {d : Option String} {field s : String} (some : s ≠ "") :
    (FieldRule.secretText d).Takes field (.some (.own (.str s))) := by
  have long := Text.length16_pos some
  simp [FieldRule.secretText, FieldRule.Takes, Kind.problems, Kind.textFaults, Scalar.ofJson?, Option.filter_some]
  omega

/-- **Its auth method accepts the credentials** exactly when the region and the endpoint have their forms. -/
theorem Of.exists_parse_iff (h : p.Of request) {m : AuthMethod}
    (schema : m.schema = { fields := .ofList p.fields, additional := some false }) :
    (∃ c, Credentials.parse m p.bundle = .ok c) ↔ Pattern.IsRegion p.region.toList ∧
      ∀ address, p.endpoint = some address →
        "http://".toList <+: address.toList ∨ "https://".toList <+: address.toList := by
  obtain ⟨region, id, key, endpoint, token⟩ := p.value?_bundle
  have entries := p.entries_of_schema schema
  have declared : m.schema.unexpected p.bundle.given = [] := by
    rw [Schema.unexpected_eq_nil_iff, p.keys_bundle, Table.keys, entries, fields]
    intro _
    cases p.sessionToken <;> cases p.endpoint <;> simp [keyFields]
  simp only [Credentials.parse_eq_ok_iff, exists_and_left, exists_eq, and_true, ← Schema.forall_fields, declared,
    entries]
  have tokenTaken : ∀ e ∈ (p.sessionToken.map fun _ =>
      ("sessionToken", FieldRule.secretText (some "AWS session token"))).toList,
      e.2.Takes e.1 (Schema.value? p.bundle.given e.1 e.2) := by
    intro e here
    obtain ⟨t, held, rfl⟩ := Option.map_eq_some_iff.1 (Option.mem_toList.1 here)
    rw [token, held]
    exact takes_secretText ((h.sessionToken t).1 held).2
  rw [fields, keyFields, List.forall_mem_append, and_iff_left tokenTaken]
  simp only [List.forall_mem_cons, List.not_mem_nil, false_implies, implies_true, and_true, region, id, key, endpoint,
    takes_pattern_iff, Pattern.region_accepts_iff, takes_secretText h.accessKeyId.2,
    takes_secretText h.secretAccessKey.2, true_and]
  refine and_congr_right fun _ => ?_
  cases p.endpoint with
  | none => exact iff_of_true rfl (by simp)
  | some address =>
    refine takes_pattern_iff.trans ?_
    simp [Pattern.webAddress_accepts_iff]

/-- What its auth method keeps of the credentials. -/
theorem entries_of_parse {m : AuthMethod} (schema : m.schema = { fields := .ofList p.fields, additional := some false })
    {c : Credentials} (accepted : Credentials.parse m p.bundle = .ok c) : c.values.entries =
      [("region", .plain (.text p.region)), ("accessKeyId", .secret ⟨p.accessKeyId⟩),
        ("secretAccessKey", .secret ⟨p.secretAccessKey⟩)]
      ++ (p.endpoint.map fun address => ("endpoint", .plain (.text address))).toList
      ++ (p.sessionToken.map fun token => ("sessionToken", .secret ⟨token⟩)).toList := by
  obtain ⟨-, -, rfl⟩ := Credentials.parse_eq_ok_iff.1 accepted
  obtain ⟨region, id, key, endpoint, token⟩ := p.value?_bundle
  rw [Schema.kept, Table.entries_filterMap, p.entries_of_schema schema, fields, keyFields]
  cases heldToken : p.sessionToken <;> cases heldEndpoint : p.endpoint <;>
    simp [region, id, key, endpoint, token, heldToken, heldEndpoint, FieldRule.secretText, Scalar.ofMember?, Scalar.ofJson?,
      FieldRule.keep, Scalar.display_text]

/-! ## Connectors -/

theorem exists_resourceType_iff {t : String} :
    (∃ r, spec.resourceType? t = some r) ↔ t = "aws-generic" ∨ t = "s3-bucket" := by
  rw [← Option.isSome_iff_exists, TypeSpec.resourceType?, List.find?_isSome]
  simp [spec, accountType, Bucket.resourceType, eq_comm]

theorem id_of_found {t : String} {r : ResourceType} (found : spec.resourceType? t = some r) : r.id = t := by
  simpa using List.find?_some found

/-- Both resource types allow both auth methods. -/
theorem allows_of_declared {r : ResourceType} {m : AuthMethod} (declared : r ∈ spec.resourceTypes)
    (declared' : m ∈ spec.methods) : m.id ∈ r.methods := by
  rcases List.mem_pair.1 declared with rfl | rfl <;> rcases List.mem_pair.1 declared' with rfl | rfl <;> decide

/-- There are several buckets, and one account. -/
theorem supportsInstances_iff {r : ResourceType} (declared : r ∈ spec.resourceTypes) :
    r.supportsInstances = true ↔ r.id = Bucket.resourceType := by
  rcases List.mem_pair.1 declared with rfl | rfl <;> decide

/-- A connector is made of it when the resource type is declared, the auth method accepts the credentials and the
resource is a bucket. -/
theorem Of.exists_make_iff (h : p.Of request) (api : Interface) (logger : Logger) :
    (∃ c, Connector.make? (connectorType api)
      ⟨p.method, p.bundle, some p.resourceType, request.resourceId, none⟩ logger = .ok c) ↔
      (p.resourceType = "aws-generic" ∨ p.resourceType = "s3-bucket") ∧
      (Pattern.IsRegion p.region.toList ∧ ∀ address, p.endpoint = some address →
        "http://".toList <+: address.toList ∨ "https://".toList <+: address.toList) ∧
      ∀ raw, request.resourceId = some raw →
        p.resourceType = "s3-bucket" ∧ ∃ id, Bucket.resolver.parse raw = .ok id := by
  obtain ⟨m, found, -, schema⟩ := h.exists_method
  have method := List.mem_of_find?_eq_some found
  rw [Connector.exists_make_iff, ← h.exists_parse_iff schema, ← exists_resourceType_iff]
  constructor
  · rintro ⟨m', r, fit⟩
    obtain rfl : m = m' := Option.some.inj (found.symm.trans fit.method)
    obtain ⟨declared, -⟩ := fit.resourceType
    refine ⟨⟨r, declared⟩, fit.credentials, fun raw wanted => ?_⟩
    obtain ⟨id, read⟩ := (Connector.exists_readTarget_iff fit.resourceType.declared).2 (fit.resource raw wanted)
    obtain ⟨-, bucket, parsed⟩ := readTarget_eq_ok_iff.1 read
    exact ⟨(id_of_found declared).symm.trans bucket, id, parsed⟩
  · rintro ⟨⟨r, declared⟩, accepted, resource⟩
    have among := List.mem_of_find?_eq_some declared
    refine ⟨m, r, found, ⟨declared, allows_of_declared among method⟩, accepted, fun raw wanted => ?_⟩
    obtain ⟨named, id, parsed⟩ := resource raw wanted
    have bucket : r.id = Bucket.resourceType := (id_of_found declared).trans named
    exact (Connector.exists_readTarget_iff among).1
      ⟨id, readTarget_eq_ok_iff.2 ⟨(supportsInstances_iff among).2 bucket, bucket, parsed⟩⟩

/-- The connector has what was found. -/
theorem Of.makes (h : p.Of request) {api : Interface} {logger : Logger} {c : Connector}
    (made : Connector.make? (connectorType api)
      ⟨p.method, p.bundle, some p.resourceType, request.resourceId, none⟩ logger = .ok c) : p.Makes request c := by
  obtain ⟨m, found, id, schema⟩ := h.exists_method
  obtain ⟨m', r, credentials, resource, found', selected, accepted, read, rfl⟩ := Connector.exists_of_make made
  obtain rfl : m = m' := Option.some.inj (found.symm.trans found')
  have declared := (Connector.selectResourceType_eq_ok_iff.1 selected).1
  refine ⟨id, id_of_found declared, ?_, entries_of_parse schema accepted⟩
  have parsed : ∀ raw id, Connector.readTarget (connectorType api) r raw = .ok id →
      Bucket.resolver.parse raw = .ok id := fun raw id read => (readTarget_eq_ok_iff.1 read).2.2
  cases wanted : request.resourceId with
  | none => rwa [wanted] at read
  | some raw =>
    rw [wanted] at read
    cases result : Connector.readTarget (connectorType api) r raw with
    | error failure => simp [result, Functor.map, Except.map] at read
    | ok id =>
      obtain rfl : some id = resource := by simpa [result, Functor.map, Except.map] using read
      simp [parsed raw id result, Functor.map, Except.map, Connector.fresh]

/-! ## Runs -/

/-- The session token is looked up, and it is not empty. -/
theorem Of.lookup?_token (h : p.Of request) : request.lookup? "AWS_SESSION_TOKEN" = p.sessionToken :=
  Option.ext fun token => lookup?_eq_some_iff.trans (h.sessionToken token).symm

theorem Of.lookup?_endpoint (h : p.Of request) : request.lookup? "AWS_ENDPOINT_URL" = p.endpoint :=
  Option.ext fun address => lookup?_eq_some_iff.trans (h.endpoint address).symm

theorem Of.regionFor (h : p.Of request) : regionFor request = p.region := by
  rw [h.region, Cloud.regionFor]
  cases request.region <;> cases request.env.get? "AWS_REGION" <;>
    cases request.env.get? "AWS_DEFAULT_REGION" <;> rfl

/-- The keys are those of the environment. -/
theorem Of.harvest (h : p.Of request) :
    harvest request = pure ⟨⟨p.accessKeyId, p.secretAccessKey, p.sessionToken⟩, "environment"⟩ := by
  have found : environmentKeys? request = some ⟨p.accessKeyId, p.secretAccessKey, p.sessionToken⟩ := by
    rw [environmentKeys?, lookup?_eq_some_iff.2 h.accessKeyId, lookup?_eq_some_iff.2 h.secretAccessKey,
      h.lookup?_token]
    rfl
  rw [Cloud.harvest, found]

/-- The settings that it makes. -/
theorem Of.settingsFor (h : p.Of request) :
    settingsFor request ⟨⟨p.accessKeyId, p.secretAccessKey, p.sessionToken⟩, "environment"⟩ p.method p.sessionToken
      = ⟨p.method, p.resourceType, request.resourceId, p.bundle⟩ := by
  rw [Cloud.settingsFor, h.lookup?_endpoint, h.regionFor, h.resourceType]
  rfl

/-- **What is found**: the settings, unless another auth method is wanted. -/
theorem Of.autoConfigure (h : p.Of request) : autoConfigure request =
    match request.method.filter fun m => m ≠ p.method with
    | some requested => .fail (.configuration (.methodMismatch "environment" p.method requested) none)
    | none => .note .info "aws: using credentials from environment"
      (.done (.ok ⟨p.method, p.resourceType, request.resourceId, p.bundle⟩)) := by
  have token : (p.sessionToken.filter fun s => !s.isEmpty) = p.sessionToken := by
    rw [← h.lookup?_token, AutoConfigureRequest.lookup?, Option.filter_filter]
    simp
  have method : (if p.sessionToken.isSome then temporaryKey else secretKey) = p.method := h.method.symm
  have settings := h.settingsFor
  have goesOn : ∀ (x : Harvest) (f : Harvest → Routine FoundSettings), (pure x >>= f) = f x := fun _ _ => rfl
  rw [Cloud.autoConfigure, h.harvest, goesOn]
  simp only [token, method, settings]
  rfl

/-- Nothing that is named is unknown when all that is named is known. -/
theorem filter_isNone_eq_none_iff {named : Option String} {β : Type} {known? : String → Option β} :
    (named.filter fun a => (known? a).isNone) = none ↔ ∀ a, named = some a → (known? a).isSome = true := by
  rw [Option.filter_eq_none_iff]
  refine forall₂_congr fun a _ => ?_
  cases known? a <;> simp

/-- Settings are looked for when the request names what is declared. -/
theorem finder_eq_ok_iff {api : Interface} {find : AutoConfigureRequest → Routine FoundSettings} :
    Connector.finder (connectorType api) request = .ok find ↔ find = Cloud.autoConfigure ∧
      (∀ m, request.method = some m → (spec.method? m).isSome = true) ∧
      ∀ t, request.resourceType = some t → (spec.resourceType? t).isSome = true := by
  have unfolded : Connector.finder (connectorType api) request =
      match request.method.filter fun m => (spec.method? m).isNone with
      | some method => .error (.configuration (.unknownAuthMethod spec.id method) none)
      | none =>
        match request.resourceType.filter fun t => (spec.resourceType? t).isNone with
        | some other => .error (.configuration (.unknownResourceType spec.id other) none)
        | none => .ok Cloud.autoConfigure := rfl
  rw [unfolded, ← filter_isNone_eq_none_iff, ← filter_isNone_eq_none_iff]
  cases request.method.filter fun m => (spec.method? m).isNone <;>
    cases request.resourceType.filter fun t => (spec.resourceType? t).isNone <;> simp [eq_comm]

/-- When the request names nothing else, two lines are written, and a connector is made of it. -/
theorem Of.does_autoConfigure_iff (h : p.Of request) (method : ∀ m, request.method = some m → m = p.method)
    (declared : ∀ t, request.resourceType = some t → t = "aws-generic" ∨ t = "s3-bucket") (api : Interface)
    (logger : Logger) {deeds : List Deed} {result : Except Failure Connector} :
    (Connector.autoConfigure (connectorType api) request logger).Does deeds result ↔
      deeds = [⟨.info, "aws: using credentials from environment"⟩,
        ⟨.info, "aws: auto-configured auth method \"" ++ p.method ++ "\" for resource type \""
          ++ p.resourceType ++ "\""⟩].map .wrote ∧
      result = Connector.make? (connectorType api)
        ⟨p.method, p.bundle, some p.resourceType, request.resourceId, none⟩ logger := by
  obtain ⟨m, known, -⟩ := h.exists_method
  have finds : Connector.finder (connectorType api) request = .ok Cloud.autoConfigure := by
    refine finder_eq_ok_iff.2 ⟨rfl, fun m' wanted => ?_, fun t wanted => ?_⟩
    · rw [method m' wanted, known]
      rfl
    · exact Option.isSome_iff_exists.2 (exists_resourceType_iff.2 (declared t wanted))
  have fits : (request.method.filter fun m => m ≠ p.method) = none := by
    refine Option.filter_eq_none_iff.2 fun m' wanted => ?_
    simp [method m' wanted]
  rw [Connector.autoConfigure, finds, Routine.ofExcept_ok_bind, h.autoConfigure, fits]
  change (Routine.note .info _ (.note .info _ (.done _))).Does deeds result ↔ _
  simp only [Routine.does_note_iff, Routine.does_done_iff]
  constructor
  · rintro ⟨_, ⟨_, ⟨rfl, rfl⟩, rfl⟩, rfl⟩
    exact ⟨rfl, rfl⟩
  · rintro ⟨rfl, rfl⟩
    exact ⟨_, ⟨[], ⟨rfl, rfl⟩, rfl⟩, rfl⟩

/-- When it names something else, nothing is done. -/
theorem Of.exists_failure (h : p.Of request) (other : ¬ ((∀ m, request.method = some m → m = p.method) ∧
      ∀ t, request.resourceType = some t → t = "aws-generic" ∨ t = "s3-bucket")) (api : Interface) (logger : Logger) :
    ∃ failure, Connector.autoConfigure (connectorType api) request logger = .done (.error failure) := by
  cases finds : Connector.finder (connectorType api) request with
  | error failure =>
    rw [Connector.autoConfigure, finds]
    exact ⟨failure, rfl⟩
  | ok find =>
    obtain ⟨rfl, -, declared⟩ := finder_eq_ok_iff.1 finds
    obtain ⟨m, mismatch⟩ : ∃ m, (request.method.filter fun m => m ≠ p.method) = some m := by
      by_contra none
      refine other ⟨fun m wanted => ?_, fun t wanted => ?_⟩
      · by_contra apart
        exact none ⟨m, Option.filter_eq_some_iff.2 ⟨wanted, by simpa using apart⟩⟩
      · exact exists_resourceType_iff.1 (Option.isSome_iff_exists.1 (declared t wanted))
    rw [Connector.autoConfigure, finds, Routine.ofExcept_ok_bind, h.autoConfigure, mismatch]
    exact ⟨_, rfl⟩

end Prospect

/-- **Auto-configuration is exact.** With both access keys in the environment a request has one run, which writes lines
and asks nothing. A connector comes out of it exactly when what the request comes to fits, and then it has what was
found and nothing else. -/
theorem autoConfigure_exact (api : Interface) (logger : Logger) {id key : String}
    (hasId : Sets request "AWS_ACCESS_KEY_ID" id) (hasKey : Sets request "AWS_SECRET_ACCESS_KEY" key) :
    ∃ p : Prospect, p.Of request ∧ ∃ (lines : List LogLine) (result : Except Failure Connector),
      (∀ deeds x, (Connector.autoConfigure (connectorType api) request logger).Does deeds x ↔
        deeds = lines.map .wrote ∧ x = result) ∧
      ((∃ c, result = .ok c) ↔ p.Fits request) ∧ ∀ c, result = .ok c → p.Makes request c := by
  obtain ⟨p, h⟩ := exists_prospect hasId hasKey
  refine ⟨p, h, ?_⟩
  by_cases named : (∀ m, request.method = some m → m = p.method) ∧
      ∀ t, request.resourceType = some t → t = "aws-generic" ∨ t = "s3-bucket"
  · refine ⟨_, _, fun deeds x => h.does_autoConfigure_iff named.1 named.2 api logger, ?_, fun c made => h.makes made⟩
    rw [h.exists_make_iff api logger]
    constructor
    · rintro ⟨-, ⟨region, endpoint⟩, resource⟩
      exact ⟨named.1, named.2, region, endpoint, resource⟩
    · intro fits
      refine ⟨?_, ⟨fits.region, fits.endpoint⟩, fits.resourceId⟩
      rw [h.resourceType]
      cases wanted : request.resourceType with
      | some t => exact named.2 t wanted
      | none => cases request.resourceId.isSome <;> simp
  · obtain ⟨failure, ended⟩ := h.exists_failure named api logger
    refine ⟨[], .error failure, fun deeds x => ?_, ?_, by simp⟩
    · rw [ended, Routine.does_done_iff]
      rfl
    · refine iff_of_false (by simp) fun fits => named ⟨fits.method, fits.resourceType⟩

/-- Temporary keys in the surroundings, a region that is set second, and a bucket that is wanted. -/
def logsRequest : AutoConfigureRequest where
  method := none
  resourceType := none
  resourceId := some "logs"
  region := none
  env := .ofList [("AWS_ACCESS_KEY_ID", "id"), ("AWS_SECRET_ACCESS_KEY", "key"), ("AWS_SESSION_TOKEN", "token"),
    ("AWS_DEFAULT_REGION", "eu-west-1"), ("AWS_ENDPOINT_URL", "")]

/-- They make a connector for the bucket, without an endpoint. -/
theorem autoConfigure_exact_logs : Sets logsRequest "AWS_ACCESS_KEY_ID" "id" ∧
    Sets logsRequest "AWS_SECRET_ACCESS_KEY" "key" ∧ ∃ (lines : List LogLine) (c : Connector),
      (Connector.autoConfigure (connectorType (.named "cloud")) logsRequest .silent).Does (lines.map .wrote) (.ok c) ∧
      c.method.id = "sts-token" ∧ c.resourceType.id = "s3-bucket" ∧ c.resourceId = some "s3://logs" ∧
      c.credentials.values.entries = [("region", .plain (.text "eu-west-1")), ("accessKeyId", .secret ⟨"id"⟩),
        ("secretAccessKey", .secret ⟨"key"⟩), ("sessionToken", .secret ⟨"token"⟩)] := by
  have hasId : Sets logsRequest "AWS_ACCESS_KEY_ID" "id" := ⟨rfl, by decide⟩
  have hasKey : Sets logsRequest "AWS_SECRET_ACCESS_KEY" "key" := ⟨rfl, by decide⟩
  obtain ⟨p, h, lines, result, runs, fits, makes⟩ := autoConfigure_exact (.named "cloud") .silent hasId hasKey
  have token : p.sessionToken = some "token" := (h.sessionToken "token").2 ⟨rfl, by decide⟩
  have endpoint : p.endpoint = none := Option.eq_none_iff_forall_ne_some.2 fun address held => by
    obtain ⟨set, some⟩ := (h.endpoint address).1 held
    exact some (Option.some.inj set).symm
  have region : p.region = "eu-west-1" := h.region
  have method : p.method = "sts-token" := by rw [h.method, token]; rfl
  have resourceType : p.resourceType = "s3-bucket" := h.resourceType
  obtain ⟨bucket, read, canonical⟩ : ∃ id, Bucket.resolver.parse "logs" = .ok id ∧ id.canonicalId = "s3://logs" :=
    ⟨_, rfl, rfl⟩
  obtain ⟨c, rfl⟩ : ∃ c, result = .ok c := by
    refine fits.2 ⟨fun m wanted => ?_, fun t wanted => ?_, ?_, fun address held => ?_, fun raw wanted => ?_⟩
    · cases wanted
    · cases wanted
    · rw [region]
      exact Pattern.region_accepts_iff.1 rfl
    · rw [endpoint] at held
      cases held
    · obtain rfl : "logs" = raw := Option.some.inj wanted
      exact ⟨resourceType, bucket, read⟩
  obtain ⟨ofMethod, ofType, resource, values⟩ := makes c rfl
  have reads : logsRequest.resourceId.mapM Bucket.resolver.parse = .ok (some bucket) := by
    simp [logsRequest, read, Functor.map, Except.map]
  have target : c.resource = some bucket := Except.ok.inj (resource.symm.trans reads)
  refine ⟨hasId, hasKey, lines, c, (runs _ _).2 ⟨rfl, rfl⟩, ofMethod.trans method, ofType.trans resourceType, ?_, ?_⟩
  · rw [Connector.resourceId, target, Option.map_some, canonical]
  · have id : "id" = p.accessKeyId := Option.some.inj h.accessKeyId.1
    have key : "key" = p.secretAccessKey := Option.some.inj h.secretAccessKey.1
    rw [values, region, endpoint, token, ← id, ← key]
    rfl

end Cloud

end ServiceAccess
