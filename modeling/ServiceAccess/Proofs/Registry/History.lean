import ServiceAccess.Proofs.Registry.Winners
import ServiceAccess.Proofs.Run

/-! # The history of a registry

A registry is built up by calls, any of which may be refused, while removed connectors disconnect. The registry stays
as a call leaves it, also when the call is refused.

* **`Change`**: the changes that a registry can make, each with its occasion. `handle_change` says that there
  are no others.
* **`Kept`**: what a registry keeps, whatever its history is.
* **`types_after`**: the types of a registry are those that it had, and behind them the new ones in the order of
  their registration.
* **`WellKept`**: a registry whose types are all reliable. A reader that is inherited passes for one of the type's own
  (**`Overrides`**), so not all registries are well kept.
* **`history_iff`**: a history is as it should be exactly when the first consistent types of their identifiers override
  what is inherited. -/

namespace ServiceAccess.Registry

variable {ι : Type}

/-- What can happen to a registry. -/
inductive Event (ι : Type) where
  /-- A connector type is to be registered. -/
  | register (type : ConnectorType)
  /-- A live connector is to get a name. -/
  | addConnector (name : String) (connector : ι)
  /-- A live connector is to be removed. -/
  | removeConnector (name : String)
  /-- A removed connector has disconnected. -/
  | disconnected (removal : Nat) (result : Except Failure Unit)

section

variable (typeOf : ι → String)

/-- What happens to a registry, as a call on it. -/
def Event.call : Event ι → Call ι Unit
  | .register type => Call.register type
  | .addConnector name connector => Call.addConnector name (typeOf connector) connector
  | .removeConnector name => modify fun r => (r.removeConnector name).1
  | .disconnected removal result => modify fun r => (r.disconnected removal result).1

/-- What a registry does when something happens to it, and whether it has been refused. -/
def handle (r : Registry ι) (e : Event ι) : Registry ι × List (Except Failure (Event ι)) :=
  let called := (e.call typeOf).run r
  (called.2, [called.1.map fun _ => e])

/-- The registry after some events. -/
abbrev after (r : Registry ι) (events : List (Event ι)) : Registry ι := Run.after (handle typeOf) r events

/-- What has come of some events. -/
abbrev outcomes (r : Registry ι) (events : List (Event ι)) : List (Except Failure (Event ι)) :=
  Run.effects (Run.trace (handle typeOf) r events)

/-! ## Changes -/

/-- **The changes that a registry can make.** Every constructor names its occasion and the fields that it
writes. -/
inductive Change (r : Registry ι) : Event ι → Registry ι → List (Except Failure (Event ι)) → Prop
  /-- A new type with a consistent description is registered. -/
  | registered {type : ConnectorType} (fresh : type.spec.id ∉ r.types.keys)
      (consistent : Consistent type type.spec.resourceTypes) :
      Change r (.register type) { r with types := r.types.insert type.spec.id type }
        [.ok (.register type)]
  /-- A live connector of a registered type gets a free name. -/
  | added {name : String} {c : ι} (free : name ∉ r.instances.keys) (known : r.has (typeOf c) = true) :
      Change r (.addConnector name c) { r with instances := r.instances.insert name c }
        [.ok (.addConnector name c)]
  /-- A live connector is removed. -/
  | removed {name : String} {c : ι} (live : r.instances.get? name = some c) :
      Change r (.removeConnector name)
        { r with
          instances := r.instances.erase name
          removed := r.removed + 1
          removals := r.removals.insert r.removed c }
        [.ok (.removeConnector name)]
  /-- There is no connector to remove. -/
  | absent {name : String} (nobody : r.instances.get? name = none) :
      Change r (.removeConnector name) { r with removed := r.removed + 1 } [.ok (.removeConnector name)]
  /-- A removal ends. -/
  | disconnected {removal : Nat} {result : Except Failure Unit} :
      Change r (.disconnected removal result) { r with removals := r.removals.erase removal }
        [.ok (.disconnected removal result)]
  /-- The identifier of a type is taken: the type is refused. -/
  | repeated {type : ConnectorType} (taken : type.spec.id ∈ r.types.keys) :
      Change r (.register type) r [.error (.duplicateType type.spec.id)]
  /-- The description of a type is inconsistent: the type is refused. -/
  | inconsistent {type : ConnectorType} {problem : Misconfiguration} (fault : fault? type = some problem) :
      Change r (.register type) r [.error (.configuration problem none)]
  /-- The name of a live connector is taken: the connector is refused. -/
  | taken {name : String} {c : ι} (taken : name ∈ r.instances.keys) :
      Change r (.addConnector name c) r [.error (.duplicateConnector name)]
  /-- The type of a live connector is unknown: the connector is refused. -/
  | unknown {name : String} {c : ι} (unknown : r.has (typeOf c) = false) :
      Change r (.addConnector name c) r [.error (.unknownType (typeOf c))]

variable {typeOf} {r r' : Registry ι} {e : Event ι} {out : List (Except Failure (Event ι))}

/-- **There are no other changes.** -/
theorem handle_change (r : Registry ι) (e : Event ι) :
    Change typeOf r e (r.handle typeOf e).1 (r.handle typeOf e).2 := by
  rw [handle]
  cases e with
  | register type =>
    rw [Event.call, run_register]
    by_cases taken : type.spec.id ∈ r.types.keys
    · rw [if_pos taken]
      exact .repeated taken
    · rw [if_neg taken]
      cases fault : fault? type with
      | some problem => exact .inconsistent fault
      | none => exact .registered taken (fault?_eq_none_iff.1 fault)
  | addConnector name c =>
    rw [Event.call, run_addConnector]
    by_cases taken : name ∈ r.instances.keys
    · rw [if_pos taken]
      exact .taken taken
    · rw [if_neg taken]
      by_cases known : typeOf c ∈ r.types.keys
      · rw [if_pos known]
        exact .added taken (Table.contains_iff.2 known)
      · rw [if_neg known]
        exact .unknown (Bool.eq_false_iff.2 (mt Table.contains_iff.1 known))
  | removeConnector name =>
    show Change typeOf r _ (r.removeConnector name).1 [.ok _]
    rw [removeConnector]
    cases live : r.instances.get? name with
    | none => exact .absent live
    | some c => exact .removed live
  | disconnected removal answer =>
    show Change typeOf r _ (r.disconnected removal answer).1 [.ok _]
    rw [Registry.disconnected]
    split
    · exact .disconnected
    · next unknown =>
      -- there is no such removal, so that nothing is left out
      rw [Table.contains_iff] at unknown
      have change : Change typeOf r (.disconnected removal answer) _ _ := .disconnected
      rwa [Table.erase_of_absent (Table.get?_eq_none_iff.2 unknown)] at change

/-! ## What a registry keeps -/

variable (typeOf) in
/-- **What a registry keeps.** -/
structure Kept (r : Registry ι) : Prop where
  /-- Every type is filed under its own identifier. -/
  filed : ∀ id type, r.find? id = some type → type.spec.id = id
  /-- Every type has a consistent description. -/
  consistent : ∀ id type, r.find? id = some type → Consistent type type.spec.resourceTypes
  /-- The type of every live connector is registered. -/
  typed : ∀ name c, r.instances.get? name = some c → r.has (typeOf c) = true

/-- The empty registry keeps it. -/
theorem kept_empty : Kept typeOf (.empty : Registry ι) := by
  constructor <;> simp [find?, empty]

/-- Every change keeps it. -/
theorem Change.kept (change : Change typeOf r e r' out) (h : r.Kept typeOf) : r'.Kept typeOf := by
  cases change with
  | registered fresh consistent =>
    refine ⟨fun id type' found => ?_, fun id type' found => ?_, fun name c live => ?_⟩
    · rw [find?, Table.get?_insert] at found
      split at found
      · next same => rw [← Option.some.inj found, same]
      · exact h.filed id type' found
    · rw [find?, Table.get?_insert] at found
      split at found
      · rw [← Option.some.inj found]
        exact consistent
      · exact h.consistent id type' found
    · -- the types that were there before stay
      have known := h.typed name c live
      rw [has, Table.contains_iff] at known ⊢
      exact Table.mem_keys_insert.2 (.inr known)
  | added free known =>
    refine ⟨h.filed, h.consistent, fun name c live => ?_⟩
    rw [Table.get?_insert] at live
    split at live
    · rw [← Option.some.inj live]
      exact known
    · exact h.typed name c live
  | removed =>
    refine ⟨h.filed, h.consistent, fun name c live => ?_⟩
    rw [Table.get?_erase] at live
    split at live
    · simp at live
    · exact h.typed name c live
  | absent | disconnected => exact ⟨h.filed, h.consistent, h.typed⟩
  | repeated | inconsistent | taken | unknown => exact h

/-- **Every run keeps it.** -/
theorem Kept.after (h : r.Kept typeOf) (events : List (Event ι)) : (r.after typeOf events).Kept typeOf :=
  Run.after_induction _ h (fun r e h => (r.handle_change e).kept h) events

/-! ## Types in order of registration -/

/-- The type that has been registered, if that is what has come of an event. -/
def newType? : Except Failure (Event ι) → Option ConnectorType
  | .ok (.register type) => some type
  | _ => none

/-- The types that have been registered, in order. -/
def newTypes (out : List (Except Failure (Event ι))) : List ConnectorType := out.filterMap newType?

/-- **A new type goes to the end**, and nothing else changes the types. -/
theorem Change.types (change : Change typeOf r e r' out) :
    r'.types.entries = r.types.entries ++ (newTypes out).map filed := by
  cases change with
  | registered fresh => exact Table.entries_insert_of_not_mem fresh _
  | _ => exact (List.append_nil _).symm

/-- **The types of a registry** are those that it had, and behind them the new ones in order. -/
theorem types_after (r : Registry ι) (events : List (Event ι)) : (r.after typeOf events).types.entries
    = r.types.entries ++ (newTypes (r.outcomes typeOf events)).map filed := by
  refine Run.trace_induction (P := fun t (r' : Registry ι) => r'.types.entries
    = r.types.entries ++ (newTypes (Run.effects t)).map filed) _ ?_ (fun t r' e kept => ?_) events
  · exact (List.append_nil _).symm
  · rw [(r'.handle_change e).types, kept, List.append_assoc, ← List.map_append]
    simp [newTypes]

/-- A type once found is found with the same identifier for ever. -/
theorem find?_after {id : String} {type : ConnectorType} (found : r.find? id = some type)
    (events : List (Event ι)) : (r.after typeOf events).find? id = some type := by
  rw [find?, Table.get?_eq_some_iff] at found ⊢
  rw [types_after]
  exact List.mem_append_left _ found

/-- A refused call changes nothing. -/
theorem Change.of_refused (change : Change typeOf r e r' out) {failure : Failure}
    (refused : out = [.error failure]) : r' = r := by
  cases change with
  | repeated | inconsistent | taken | unknown => rfl
  | _ => simp at refused

variable (typeOf) in
/-- **A registry to which types are only appended.** -/
structure AppendOnly (r : Registry ι) : Prop where
  /-- A refused call changes neither types nor live connectors. -/
  refused : ∀ e failure, (r.handle typeOf e).2 = [.error failure] →
    (r.handle typeOf e).1.types = r.types ∧ (r.handle typeOf e).1.instances = r.instances
  /-- A registered type goes behind the others and changes nothing else. -/
  registered : ∀ type, (r.handle typeOf (.register type)).2 = [.ok (.register type)] →
    (r.handle typeOf (.register type)).1.types.entries = r.types.entries ++ [(type.spec.id, type)] ∧
      (r.handle typeOf (.register type)).1.instances = r.instances
  /-- A type once found is found for ever. -/
  lasting : ∀ id type events, r.find? id = some type → (r.after typeOf events).find? id = some type

theorem appendOnly (r : Registry ι) : r.AppendOnly typeOf where
  refused := by
    intro e failure refused
    rw [(r.handle_change e).of_refused refused]
    exact ⟨rfl, rfl⟩
  registered := by
    intro type accepted
    have change : Change typeOf r (.register type) (r.handle typeOf (.register type)).1
        (r.handle typeOf (.register type)).2 := r.handle_change _
    rw [accepted] at change
    generalize (r.handle typeOf (.register type)).1 = r' at change ⊢
    cases change with
    | registered fresh => exact ⟨Table.entries_insert_of_not_mem fresh _, rfl⟩
  lasting := fun _ _ events found => find?_after found events

/-! ## The types that are offered -/

/-- The type that is offered, if that is what happens. -/
def offer? : Event ι → Option ConnectorType
  | .register type => some type
  | _ => none

/-- The types that are offered, in order. -/
def offered (events : List (Event ι)) : List ConnectorType := events.filterMap offer?

theorem offered_concat (events : List (Event ι)) (e : Event ι) :
    offered (events ++ [e]) = offered events ++ (offer? e).toList := by
  cases e <;> simp [offered, offer?]

/-- **A registry of winners stays one**, whatever happens to it. -/
theorem HoldsWinners.handle {l : List ConnectorType} (h : r.HoldsWinners l) (e : Event ι) :
    HoldsWinners (r.handle typeOf e).1 (l ++ (offer? e).toList) := by
  have change : Change typeOf r e (r.handle typeOf e).1 (r.handle typeOf e).2 := r.handle_change e
  cases e with
  | register type => exact h.register type
  | _ =>
    -- nothing else changes the types
    generalize (r.handle typeOf _).1 = r', (r.handle typeOf _).2 = out at change ⊢
    show HoldsWinners r' (l ++ [])
    rw [List.append_nil]
    cases change <;> exact h

/-- **The types of a registry** that began empty are the winners among those that have been offered. -/
theorem holdsWinners_after (typeOf : ι → String) (events : List (Event ι)) :
    HoldsWinners (empty.after typeOf events) (offered events) := by
  induction events using List.reverseRecOn with
  | nil => exact holdsWinners_empty
  | append_singleton events e ih =>
    rw [after, Run.after_append, offered_concat]
    exact ih.handle e

/-! ## Readers of their own -/

/-- **A type overrides what is inherited**: it has a reader of its own wherever something is inherited under the
identifier of a resource type with several targets. -/
def Overrides (type : ConnectorType) : Prop :=
  ∀ t ∈ type.spec.resourceTypes, t.supportsInstances = true → Object.Inherits t.id → t.id ∈ type.resolvers.keys

variable {type : ConnectorType}

/-- What is found where a reader is looked up may be inherited. -/
theorem isSome_reader?_iff {id : String} :
    (type.reader? id).isSome = true ↔ id ∈ type.resolvers.keys ∨ Object.Inherits id := by
  rw [ConnectorType.reader?, Option.isSome_map, Option.isSome_iff_ne_none, ne_eq, Table.read_eq_none_iff,
    Table.get?_eq_none_iff]
  tauto

/-- A consistent type has readers of its own exactly when it overrides what is inherited. -/
theorem Consistent.overrides_iff (h : Consistent type type.spec.resourceTypes) : Overrides type ↔
    ∀ t ∈ type.spec.resourceTypes, t.supportsInstances = true →
      ∃ resolver, type.resolvers.get? t.id = some resolver := by
  simp only [← Table.mem_keys_iff]
  constructor
  · intro overrides t declared several
    rcases isSome_reader?_iff.1 (h.readable t declared several) with own | inherited
    · exact own
    · exact overrides t declared several inherited
  · exact fun own t declared several _ => own t declared several

variable (typeOf) in
/-- **A well-kept registry.** -/
structure WellKept (r : Registry ι) : Prop where
  /-- Every type is filed under its own identifier. -/
  filed : ∀ id type, r.find? id = some type → type.spec.id = id
  /-- No two resource types of a type share an identifier. -/
  distinct : ∀ id type, r.find? id = some type → (type.spec.resourceTypes.map ResourceType.id).Nodup
  /-- The auth methods that a resource type allows are declared. -/
  declared : ∀ id type, r.find? id = some type → ∀ t ∈ type.spec.resourceTypes, ∀ m ∈ t.methods,
    ∃ method, type.spec.method? m = some method
  /-- There is a reader for the IDs of every resource type with several targets. -/
  resolved : ∀ id type, r.find? id = some type → ∀ t ∈ type.spec.resourceTypes, t.supportsInstances = true →
    ∃ resolver, type.resolvers.get? t.id = some resolver
  /-- The type of every live connector is registered. -/
  typed : ∀ name c, r.instances.get? name = some c → r.has (typeOf c) = true

/-- **What a registry keeps is enough** unless a type relies on what is inherited. -/
theorem Kept.wellKept_iff (h : r.Kept typeOf) : r.WellKept typeOf ↔ ∀ type ∈ r.list, Overrides type := by
  constructor
  · intro well type listed
    obtain ⟨id, found⟩ := Table.mem_values_iff.1 listed
    exact (h.consistent id type found).overrides_iff.2 (well.resolved id type found)
  · intro overrides
    refine ⟨h.filed, fun id type found => ?_, fun id type found t here m allowed => ?_, fun id type found => ?_, h.typed⟩
    · exact (h.consistent id type found).distinct
    · exact Option.isSome_iff_exists.1 ((h.consistent id type found).declared t here m allowed)
    · have listed : type ∈ r.list := Table.mem_values_iff.2 ⟨id, found⟩
      exact (h.consistent id type found).overrides_iff.1 (overrides type listed)

/-! ## Histories -/

/-- **A history of a registry as it should be.** -/
structure History (typeOf : ι → String) (events : List (Event ι)) : Prop where
  /-- The registry is well kept. -/
  wellKept : (empty.after typeOf events).WellKept typeOf
  /-- Types are only appended to it. -/
  appendOnly : (empty.after typeOf events).AppendOnly typeOf
  /-- It lists the types in the order of their registration. -/
  listed : (empty.after typeOf events).list = newTypes (empty.outcomes typeOf events)

/-- **The history of a registry.** Whatever has been registered, added and removed, and whatever of it has been
refused: the history is as it should be exactly when the first consistent types of their identifiers override what is
inherited. A type that does not is registered although it has no reader for some IDs. -/
theorem history_iff (typeOf : ι → String) (events : List (Event ι)) :
    History typeOf events ↔ ∀ type ∈ winners [] (offered events), Overrides type := by
  rw [← (holdsWinners_after typeOf events).list_eq, ← (kept_empty.after events).wellKept_iff]
  refine ⟨History.wellKept, fun well => ⟨well, appendOnly _, ?_⟩⟩
  rw [list, Table.values, types_after, List.map_append, List.map_map]
  exact List.map_id _

/-- A type whose resource IDs cannot be read. -/
def readerless : ConnectorType where
  spec := { Docker.spec with resourceTypes := [⟨"toString", "Text", none, true, false, []⟩] }
  resolvers := ∅
  provider := (Docker.connectorType "daemon" "docker").provider

/-- **Such a type gets into a registry** when something is inherited under the identifier of its resource type. -/
theorem not_history_readerless : ¬ History (fun _ : Unit => "docker") [.register readerless] := by
  intro history
  have found : (empty.after (fun _ : Unit => "docker") [.register readerless]).find? "docker" = some readerless := rfl
  obtain ⟨resolver, own⟩ := history.wellKept.resolved "docker" readerless found _ List.mem_cons_self rfl
  cases own

end

end ServiceAccess.Registry
