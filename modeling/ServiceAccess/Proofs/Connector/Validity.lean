import ServiceAccess.Proofs.Connector.Activity
import ServiceAccess.Proofs.Connector.MissingSecrets

/-! # Valid connectors

Settings are checked when a connector is made and not again: a rotation brings in credentials without looking
at the resource type, and calls only read what the connector is bound to.

* **`ConnectorSettings.Fit`**: settings that fit an auth method and a resource type of a connector type.
* **`Connector.exists_make_iff`**: these are the settings that a connector is made with.
* **`Connector.Obtained`**: how connectors come about. **`Obtained.valid_after`**: however one has come about,
  and whatever has happened to it, it is valid and bound to the same. -/

namespace ServiceAccess

/-! ## Settings that fit -/

/-- **Settings that fit** an auth method and a resource type of a connector type. -/
structure ConnectorSettings.Fit (settings : ConnectorSettings) (type : ConnectorType) (m : AuthMethod)
    (r : ResourceType) : Prop where
  /-- The auth method is declared. -/
  method : type.spec.method? settings.method = some m
  /-- The resource type is the one that is meant. -/
  resourceType : type.spec.Selects m.id settings.resourceType r
  /-- The auth method accepts the credentials. -/
  credentials : ∃ credentials, Credentials.parse m settings.bundle = .ok credentials
  /-- A target is one of several, and its ID can be read. -/
  resource : ∀ raw, settings.resourceId = some raw → r.supportsInstances = true ∧
    ∃ resolver id, type.resolvers.get? r.id = some resolver ∧ resolver.parse raw = .ok id

namespace Connector

variable {type : ConnectorType} {settings : ConnectorSettings} {logger : Logger} {c c' : Connector}

/-- A target is read unless there is one that is not. -/
theorem exists_mapM_eq_ok_iff {read : String → Except Failure ResourceId} {target : Option String} :
    (∃ resource, target.mapM read = .ok resource) ↔ ∀ raw, target = some raw → ∃ id, read raw = .ok id := by
  cases target with
  | none => simp [pure, Except.pure]
  | some raw => cases result : read raw <;> simp [result, Functor.map, Except.map]

/-- The IDs of a declared resource type are read where there are several targets, by its resolver. -/
theorem exists_readTarget_iff {r : ResourceType} (declared : r ∈ type.spec.resourceTypes) {raw : String} :
    (∃ id, readTarget type r raw = .ok id) ↔ r.supportsInstances = true ∧
      ∃ resolver id, type.resolvers.get? r.id = some resolver ∧ resolver.parse raw = .ok id := by
  have known : (type.spec.resourceType? r.id).isSome = true :=
    List.find?_isSome.2 ⟨r, declared, by simp⟩
  simp only [readTarget_eq_ok_iff, known, true_and]
  constructor
  · rintro ⟨id, several, resolver, reader, parsed⟩
    exact ⟨several, resolver, id, reader, parsed⟩
  · rintro ⟨several, resolver, id, reader, parsed⟩
    exact ⟨id, several, resolver, reader, parsed⟩

/-- **What a connector is made with**: exactly the settings that fit. -/
theorem exists_make_iff :
    (∃ c, make? type settings logger = .ok c) ↔ ∃ m r, settings.Fit type m r := by
  constructor
  · rintro ⟨c, made⟩
    obtain ⟨m, r, credentials, resource, found, selected, accepted, read, -⟩ := exists_of_make made
    refine ⟨m, r, found, selectResourceType_eq_ok_iff.1 selected, ⟨credentials, accepted⟩, ?_⟩
    intro raw given
    exact (exists_readTarget_iff (selectResourceType_eq_ok_iff.1 selected).declared).1
      (exists_mapM_eq_ok_iff.1 ⟨resource, read⟩ raw given)
  · rintro ⟨m, r, fit⟩
    have selected := selectResourceType_eq_ok_iff.2 fit.resourceType
    obtain ⟨credentials, accepted⟩ := fit.credentials
    obtain ⟨resource, read⟩ := exists_mapM_eq_ok_iff.2 fun raw given =>
      (exists_readTarget_iff fit.resourceType.declared).2 (fit.resource raw given)
    rw [make?_eq fit.method selected, accepted, read]
    exact ⟨_, rfl⟩

/-! ## Valid connectors -/

/-- **A valid connector**: what it is bound to stands in the description of its type and fits together, and its
credentials have been accepted. -/
structure Valid (c : Connector) : Prop extends c.Described, c.Proper

/-- A new connector is valid. -/
theorem valid_of_make (made : make? type settings logger = .ok c) : c.Valid :=
  ⟨(described_of_make made).1, (proper_of_make made).1⟩

/-- **Every step keeps a connector valid.** -/
theorem Valid.step (h : c.Valid) (i : Input) : (c.step i).1.Valid :=
  ⟨h.toDescribed.of_keeps (c.keeps_handle (.input i)), h.toProper.handle (.input i)⟩

/-- **At work a connector stays valid and bound to the same**, whatever the script is. -/
theorem Valid.after {ι : Type} {bundles : ι → Bundle} (h : c.Valid) (script : List (Cue ι)) :
    (Run.after (Activity.step bundles) (.idle c) script).connector.Valid ∧
      c.Keeps (Run.after (Activity.step bundles) (.idle c) script).connector :=
  Activity.connector_after_induction (P := fun c' => c'.Valid ∧ c.Keeps c') bundles ⟨h, .refl c⟩
    (fun c' i kept => ⟨kept.1.step i, kept.2.trans (c'.keeps_handle (.input i))⟩) script

/-! ## How connectors come about -/

/-- **How connectors come about.** -/
inductive Obtained : Connector → Prop
  /-- A connector is made of a given type. -/
  | made {type : ConnectorType} {settings : ConnectorSettings} {logger : Logger} {c : Connector} :
      make? type settings logger = .ok c → Obtained c
  /-- A connector is made of a registered type. -/
  | madeOf {ι : Type} {registry : Registry ι} {id : String} {type : ConnectorType}
      {settings : ConnectorSettings} {logger : Logger} {c : Connector} : registry.get id = .ok type →
      make? type settings logger = .ok c → Obtained c
  /-- Settings have been found in the surroundings. -/
  | found {type : ConnectorType} {request : AutoConfigureRequest} {logger : Logger} {c : Connector} :
      (autoConfigure type request logger).MayReturn (.ok c) → Obtained c
  /-- A stored connector is restored. -/
  | restored {ι : Type} {registry : Registry ι} {record : ConnectorRecord}
      {secrets : Table String String} {logger : Logger} {c : Connector} :
      record.restore registry secrets logger = .ok c → Obtained c

/-- An auto-configured connector is made with the settings that have been found. -/
theorem make_of_autoConfigure {request : AutoConfigureRequest}
    (found : (autoConfigure type request logger).MayReturn (.ok c)) :
    ∃ settings, make? type settings logger = .ok c := by
  obtain ⟨find, -, later⟩ := Routine.MayReturn.of_bind found
  obtain ⟨settings, -, later⟩ := Routine.MayReturn.of_bind later
  obtain ⟨-, -, last⟩ := Routine.MayReturn.of_bind later
  exact ⟨_, (Routine.MayReturn.of_ofExcept last).symm⟩

/-- A restored connector is made with the settings of its record. -/
theorem make_of_restore {ι : Type} {registry : Registry ι} {record : ConnectorRecord}
    {secrets : Table String String} (restored : record.restore registry secrets logger = .ok c) :
    ∃ type, make? type (record.settings secrets) logger = .ok c := by
  rw [ConnectorRecord.restore] at restored
  split at restored
  · simp at restored
  · cases registered : registry.get record.type with
    | error => simp [registered, bind, Except.bind] at restored
    | ok type => exact ⟨type, by simpa [registered, bind, Except.bind] using restored⟩

/-- **However a connector comes about, it is made.** -/
theorem Obtained.make (h : c.Obtained) : ∃ type settings logger, make? type settings logger = .ok c := by
  cases h with
  | made made | madeOf _ made => exact ⟨_, _, _, made⟩
  | found found =>
    obtain ⟨settings, made⟩ := make_of_autoConfigure found
    exact ⟨_, settings, _, made⟩
  | restored restored =>
    obtain ⟨type, made⟩ := make_of_restore restored
    exact ⟨type, _, _, made⟩

/-! ## Validity -/

/-- **Connectors are valid.** A connector is made exactly with settings that fit; and however a connector has
come about, and whatever has happened to it, it is valid and bound to the same. -/
theorem validity :
    (∀ type settings logger, (∃ c, make? type settings logger = .ok c) ↔ ∃ m r, settings.Fit type m r) ∧
    ∀ c : Connector, c.Obtained → ∀ (ι : Type) (bundles : ι → Bundle) (script : List (Cue ι)),
      (Run.after (Activity.step bundles) (.idle c) script).connector.Valid ∧
        c.Keeps (Run.after (Activity.step bundles) (.idle c) script).connector := by
  refine ⟨fun type settings logger => exists_make_iff, fun c obtained ι bundles script => ?_⟩
  obtain ⟨type, settings, logger, made⟩ := obtained.make
  exact (valid_of_make made).after script

/-- A locker stays valid when its code is changed and when a change fails. -/
theorem validity_lockers : ∃ c, make? lockers lockerSettings .silent = .ok c ∧
    (Run.after (Activity.step id) (.idle c) [.rotate (lockerBundle "4321" "98"), .rotate ∅,
      .verify none none]).connector.Valid := by
  have made : make? lockers lockerSettings .silent = .ok _ := rfl
  exact ⟨_, made, (validity.2 _ (.made made) Bundle id _).1⟩

end Connector

end ServiceAccess
