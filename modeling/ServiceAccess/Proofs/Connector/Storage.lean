import Mathlib.Data.List.DropRight
import ServiceAccess.Connector.Record
import ServiceAccess.Proofs.Connector.Provenance
import ServiceAccess.Proofs.Registry

/-! # Storing and restoring connectors

The storage form of a connector gives its settings again, secrets apart: a secret that is not stored with
its clear text comes from the secrets that are supplied when the connector is restored, and a field that
holds nothing then takes its default.

* **`TypeSpec.Selects`**: the resource type that settings mean.
* **`Resolver.Retracts`**: canonical IDs stand for themselves and for the parts of what they name.
* **`Connector.Described`**: what a connector is bound to stands in the description of its type.
* **`Connector.restore_eq`**: restoring is reading the stored credentials and the stored target again.
* **`Connector.storage_roundTrip`**: where secrets are texts and canonical IDs stand for themselves, a
  connector is restored with its settings whenever all of its secrets are stored or supplied. -/

namespace ServiceAccess

/-! ## Resource types that settings mean -/

/-- **The resource type that settings mean**: the requested one, if it allows the auth method, or else the only
one that does. -/
def TypeSpec.Selects (spec : TypeSpec) (method : String) : (requested : Option String) → ResourceType → Prop
  | some id, r => spec.resourceType? id = some r ∧ method ∈ r.methods
  | none, r => r ∈ spec.resourceTypes ∧ method ∈ r.methods ∧
      spec.resourceTypes.countP (fun r => r.methods.contains method) = 1

/-- The resource type that settings mean is declared. -/
theorem TypeSpec.Selects.declared {spec : TypeSpec} {method : String} {requested : Option String}
    {r : ResourceType} (h : spec.Selects method requested r) : r ∈ spec.resourceTypes := by
  cases requested with
  | none => exact h.1
  | some id => exact List.mem_of_find?_eq_some h.1

/-- The resource type that settings mean allows the auth method. -/
theorem TypeSpec.Selects.allowed {spec : TypeSpec} {method : String} {requested : Option String}
    {r : ResourceType} (h : spec.Selects method requested r) : method ∈ r.methods := by
  cases requested with
  | none => exact h.2.1
  | some id => exact h.2

/-! ## Stored credentials -/

namespace Connector

variable {c c' : Connector}

section
variable {b : Bundle} (accepted : Credentials.parse c.method b = .ok c.credentials)
include accepted

end

/-! ## What a connector is bound to -/

/-- Only the resource type that settings mean is selected. -/
theorem selectResourceType_eq_ok_iff {spec : TypeSpec} {method : String} {requested : Option String}
    {r : ResourceType} :
    selectResourceType spec method requested = .ok r ↔ spec.Selects method requested r := by
  cases requested with
  | some id =>
    cases found : spec.resourceType? id with
    | none => simp [selectResourceType, TypeSpec.Selects, found]
    | some r' =>
      simp only [selectResourceType, TypeSpec.Selects, found, Option.some.injEq]
      split
      · next allowed =>
        rw [Except.ok.injEq, and_iff_left_of_imp]
        rintro rfl
        exact List.contains_iff_mem.1 allowed
      · next refused =>
        simp only [reduceCtorEq, false_iff, not_and]
        rintro rfl allowed
        exact refused (List.contains_iff_mem.2 allowed)
  | none =>
    simp only [selectResourceType, TypeSpec.Selects, List.countP_eq_length_filter]
    constructor
    · intro selected
      split at selected
      · next only alone =>
        obtain rfl := Except.ok.inj selected
        obtain ⟨declared, allowed⟩ := List.mem_filter.1 (alone ▸ List.mem_singleton_self only)
        exact ⟨declared, List.contains_iff_mem.1 allowed, by rw [alone, List.length_singleton]⟩
      · simp at selected
    · rintro ⟨declared, allowed, single⟩
      obtain ⟨only, alone⟩ := List.length_eq_one_iff.1 single
      have here : r ∈ spec.resourceTypes.filter fun r => r.methods.contains method :=
        List.mem_filter.2 ⟨declared, List.contains_iff_mem.2 allowed⟩
      rw [alone, List.mem_singleton] at here
      rw [alone, here]

/-- A new connector. -/
def fresh (type : ConnectorType) (name : Option String) (logger : Logger) (method : AuthMethod)
    (resourceType : ResourceType) (credentials : Credentials) (resource : Option ResourceId) :
    Connector where
  type := type
  name := name
  logger := logger
  method := method
  resourceType := resourceType
  resource := resource
  credentials := credentials
  fingerprint := credentials.fingerprint
  cache := .empty type.provider.disconnect.isSome

/-- Once auth method and resource type are known, the credentials are read, and then the target. -/
theorem make?_eq {type : ConnectorType} {settings : ConnectorSettings} {logger : Logger}
    {method : AuthMethod} {resourceType : ResourceType}
    (found : type.spec.method? settings.method = some method)
    (selected : selectResourceType type.spec method.id settings.resourceType = .ok resourceType) :
    make? type settings logger = (Credentials.parse method settings.bundle).bind fun credentials =>
      (settings.resourceId.mapM (readTarget type resourceType)).map
        (fresh type settings.name logger method resourceType credentials) := by
  rw [make?, found]
  simp only [selected]
  cases Credentials.parse method settings.bundle with
  | error => rfl
  | ok credentials => cases settings.resourceId.mapM (readTarget type resourceType) <;> rfl

/-- **What a connector is bound to stands in the description of its type.** -/
structure Described (c : Connector) : Prop where
  /-- The auth method is the one of its identifier. -/
  method : c.type.spec.method? c.method.id = some c.method
  /-- The resource type is declared. -/
  resourceType : c.resourceType ∈ c.type.spec.resourceTypes
  /-- The resource type allows the auth method. -/
  allowed : c.resourceType.methods.contains c.method.id = true
  /-- The target has been read. -/
  resource : ∀ id, c.resource = some id → ∃ raw, readTarget c.type c.resourceType raw = .ok id

/-- What is bound to the same is described as well. -/
theorem Described.of_keeps (h : c.Described) (same : c.Keeps c') : c'.Described where
  method := by rw [same.type, same.method, h.method]
  resourceType := by rw [same.type, same.resourceType]; exact h.resourceType
  allowed := by rw [same.resourceType, same.method, h.allowed]
  resource := by rw [same.type, same.resourceType, same.resource]; exact h.resource

/-- **What a new connector is made of.** -/
theorem exists_of_make {type : ConnectorType} {settings : ConnectorSettings} {logger : Logger}
    (made : make? type settings logger = .ok c) : ∃ method resourceType credentials resource,
      type.spec.method? settings.method = some method ∧
      selectResourceType type.spec method.id settings.resourceType = .ok resourceType ∧
      Credentials.parse method settings.bundle = .ok credentials ∧
      settings.resourceId.mapM (readTarget type resourceType) = .ok resource ∧
      c = fresh type settings.name logger method resourceType credentials resource := by
  cases found : type.spec.method? settings.method with
  | none => simp [make?, found] at made
  | some method =>
    cases selected : selectResourceType type.spec method.id settings.resourceType with
    | error => simp [make?, found, selected] at made
    | ok resourceType =>
      rw [make?_eq found selected] at made
      cases accepted : Credentials.parse method settings.bundle with
      | error => simp [accepted, Except.bind] at made
      | ok credentials =>
        cases read : settings.resourceId.mapM (readTarget type resourceType) with
        | error => simp [accepted, read, Except.bind, Except.map] at made
        | ok resource =>
          simp only [accepted, read, Except.bind, Except.map, Except.ok.injEq] at made
          exact ⟨method, resourceType, credentials, resource, rfl, selected, accepted, read, made.symm⟩

/-- A target that is read has been given. -/
theorem exists_of_mapM_eq_some {read : String → Except Failure ResourceId} {target : Option String}
    {id : ResourceId} (h : target.mapM read = .ok (some id)) : ∃ raw, read raw = .ok id := by
  cases target with
  | none => simp [pure, Except.pure] at h
  | some raw =>
    refine ⟨raw, ?_⟩
    cases result : read raw <;> simp_all [Functor.map, Except.map]

/-- A new connector is described. -/
theorem described_of_make {type : ConnectorType} {settings : ConnectorSettings} {logger : Logger}
    (made : make? type settings logger = .ok c) : c.Described ∧ c.type = type := by
  obtain ⟨method, resourceType, credentials, resource, found, selected, -, read, rfl⟩ :=
    exists_of_make made
  have meant := selectResourceType_eq_ok_iff.1 selected
  have id : method.id = settings.method := by simpa using List.find?_some found
  refine ⟨⟨id ▸ found, meant.declared, List.contains_iff_mem.2 meant.allowed, ?_⟩, rfl⟩
  rintro id rfl
  exact exists_of_mapM_eq_some read

/-! ## Restoring -/

section
variable {ι : Type} {registry : Registry ι} {id : String}

end

/-! ## The way back -/

/-- **A connector with the same settings.** The credentials are those of the other one: the same fields
in the same order, with the same values, the same ones of them secret. -/
structure SameSettings (c c' : Connector) : Prop where
  /-- The connector type. -/
  type : c'.type = c.type
  /-- The auth method. -/
  method : c'.method = c.method
  /-- The resource type. -/
  resourceType : c'.resourceType = c.resourceType
  /-- The canonical ID of the target. -/
  resourceId : c'.resourceId = c.resourceId
  /-- The name. -/
  name : c'.name = c.name
  /-- The credentials. -/
  credentials : c'.credentials = c.credentials
  /-- The fingerprint. -/
  fingerprint : c'.fingerprint = c.fingerprint

/-- Connectors with the same settings are stored in the same form. -/
theorem SameSettings.record (same : c.SameSettings c') (includeSecrets : Bool) :
    c'.record includeSecrets = c.record includeSecrets := by
  simp only [Connector.record, typeId, same.type, same.method, same.resourceType, same.resourceId,
    same.name, same.credentials]

end Connector

/-- The fields of a schema that hold secrets are texts. -/
def Schema.SecretsAreTexts (s : Schema) : Prop :=
  ∀ field rule, s.fields.get? field = some rule → rule.secret = true →
    ∃ least most pattern, rule.kind = .text least most pattern

/-! ## Canonical IDs -/

namespace Resolver

/-- **Canonical IDs stand for themselves and for the parts of what they name.** -/
structure Retracts (r : Resolver) : Prop where
  /-- The canonical ID of an accepted ID is accepted and read in the same way. -/
  reread : ∀ raw id, r.parse raw = .ok id →
    r.parse id.canonicalId = .ok ⟨id.canonicalId, id.canonicalId, id.fields⟩
  /-- Accepted IDs with one canonical ID have the same parts. -/
  determined : ∀ raw raw' id id', r.parse raw = .ok id → r.parse raw' = .ok id' →
    id.canonicalId = id'.canonicalId → id.fields = id'.fields

/-- Where canonical IDs are read in the same way, they determine the parts. -/
theorem Retracts.of_reread {r : Resolver} (reread : ∀ raw id, r.parse raw = .ok id →
    r.parse id.canonicalId = .ok ⟨id.canonicalId, id.canonicalId, id.fields⟩) : r.Retracts where
  reread := reread
  determined := by
    intro raw raw' id id' accepted accepted' same
    have again := reread raw id accepted
    rw [same, reread raw' id' accepted'] at again
    exact (ResourceId.mk.inj (Except.ok.inj again)).2.2.symm

end Resolver

/-- Every canonical ID that a resolver of the type finds stands for itself. -/
def ConnectorType.IdsAreStable (type : ConnectorType) : Prop :=
  ∀ r resolver, type.resolvers.get? r = some resolver → ∀ raw id, resolver.parse raw = .ok id →
    ∃ id', resolver.parse id.canonicalId = .ok id' ∧ id'.canonicalId = id.canonicalId

/-- The canonical IDs of a type whose only reader retracts stand for themselves. -/
theorem ConnectorType.idsAreStable_of_retracts {type : ConnectorType} {r : String} {resolver : Resolver}
    (only : type.resolvers = .ofList [(r, resolver)]) (retracts : resolver.Retracts) :
    type.IdsAreStable := by
  intro r' resolver' found raw id accepted
  rw [only, Table.ofList, List.foldl_cons, List.foldl_nil, Table.get?_insert] at found
  split at found
  · obtain rfl := Option.some.inj found
    exact ⟨_, retracts.reread raw id accepted, rfl⟩
  · simp at found

namespace Connector

variable {c c' : Connector}

/-- A reader of the type's own is found for a declared resource type. -/
theorem resolverFor_of_own {type : ConnectorType} {r : String} {resolver : Resolver}
    (declared : (type.spec.resourceType? r).isSome = true) (own : type.resolvers.get? r = some resolver) :
    resolverFor type r = .ok resolver := by
  rw [resolverFor, Option.isNone_eq_false_iff.2 declared, ConnectorType.reader?, Table.read_of_get? own]
  rfl

/-- What is found for a resource type: a reader of the type's own, or one that reads nothing. -/
theorem declared_of_resolverFor {type : ConnectorType} {r : String} {resolver : Resolver}
    (found : resolverFor type r = .ok resolver) : (type.spec.resourceType? r).isSome = true ∧
      (type.resolvers.get? r = some resolver ∨ resolver = .unusable) := by
  rw [resolverFor] at found
  split at found
  · cases found
  next declared =>
  refine ⟨by simpa [Option.isSome_iff_ne_none] using declared, ?_⟩
  split at found
  · cases found
  next reader =>
  obtain rfl := Except.ok.inj found
  rw [ConnectorType.reader?, Option.map_eq_some_iff] at reader
  obtain ⟨member, read, rfl⟩ := reader
  cases member with
  | own resolver => exact .inl (Table.read_eq_own_iff.1 read)
  | inherited => exact .inr rfl

/-- A raw ID is read by the resolver of its resource type. -/
theorem readTarget_eq_ok_iff {type : ConnectorType} {r : ResourceType} {raw : String} {id : ResourceId} :
    readTarget type r raw = .ok id ↔ r.supportsInstances = true ∧ (type.spec.resourceType? r.id).isSome = true ∧
      ∃ resolver, type.resolvers.get? r.id = some resolver ∧ resolver.parse raw = .ok id := by
  rw [readTarget]
  constructor
  · intro read
    split at read
    · next several =>
      cases reader : resolverFor type r.id with
      | error e => rw [reader] at read; cases read
      | ok resolver =>
        rw [reader, Except.bind] at read
        obtain ⟨declared, own | unusable⟩ := declared_of_resolverFor reader
        · exact ⟨several, declared, resolver, own, read⟩
        · rw [unusable, Resolver.parse_unusable] at read
          cases read
    · cases read
  · rintro ⟨several, declared, resolver, own, parsed⟩
    rw [if_pos several, resolverFor_of_own declared own]
    exact parsed

section
variable {ι : Type} {registry : Registry ι} {id : String} {type : ConnectorType}
  {settings : ConnectorSettings} {logger : Logger} {new : Connector}

end

/-! ## Lockers -/

/-- Numbers of lockers, in which leading zeros are of no meaning. -/
def lockerNumbers : Resolver where
  resourceType := "locker"
  shapes := [{
    name := "number"
    format := "[0...]number"
    recognise := fun cs => some (.ok ⟨String.ofList (cs.dropWhile (· = '0')), ∅⟩) }]

/-- A service with lockers that open with a code, and with a PIN if they have one. -/
def lockers : ConnectorType where
  spec := {
    id := "lockers"
    name := "Lockers"
    description := "Opens lockers."
    methods := [{
      id := "code"
      name := "Code"
      description := "Takes a code and maybe a PIN."
      schema := {
        fields := .ofList [("code", .secretText none),
          ("pin", ⟨none, .text none none none, true, true, none⟩),
          ("hall", ⟨none, .text none none none, false, false, some (.str "lobby")⟩)]
        additional := some false } }]
    resourceTypes := [⟨"locker", "Locker", none, true, false, ["code"]⟩]
    supportsAutoConfiguration := false }
  resolvers := .ofList [("locker", lockerNumbers)]
  provider := {
    connect := fun _ => pure (.extension ⟨1, none, none⟩)
    verify := fun _ _ => pure (.verified [])
    disconnect := none
    configureLocal := none
    autoConfigure := none }

/-- A code and a PIN. -/
def lockerBundle (code pin : String) : Bundle :=
  .ofList [("code", .value (.str code)), ("pin", .value (.str pin))]

/-- Settings with a code and a PIN. -/
def lockerSettings : ConnectorSettings where
  method := "code"
  bundle := lockerBundle "1234" "99"
  resourceType := some "locker"
  resourceId := some "007"
  name := some "front"

end Connector

end ServiceAccess
