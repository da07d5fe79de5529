import ServiceAccess.ConnectorType

/-! # Registries

A registry catalogues connector types by identifier and live connectors by name, both in order of arrival.
A type is registered once and for all, after its description has been found consistent. Removing a live
connector frees its name at once; the removal ends when the connector has disconnected.

Calls work on the registry in place: a `Registry.Call` that fails leaves what it has written until then. -/

namespace ServiceAccess

/-- A catalogue of connector types and of live connectors `ι`. -/
structure Registry (ι : Type) where
  /-- The connector types, by identifier. -/
  types : Table String ConnectorType
  /-- The live connectors, by name. -/
  instances : Table String ι
  /-- The number of the next removal. -/
  removed : Nat
  /-- The removals whose connector has not disconnected yet. -/
  removals : Table Nat ι

/-- What a removal asks for. -/
inductive RemovalEffect (ι : Type) where
  /-- Disconnect the removed connector. -/
  | disconnect (removal : Nat) (connector : ι)
  /-- End the removal; the result says whether there was a connector. -/
  | settled (removal : Nat) (result : Except Failure Bool)

namespace Registry

variable {ι : Type}

/-- The empty registry. -/
def empty : Registry ι := ⟨∅, ∅, 0, ∅⟩

instance : Inhabited (Registry ι) := ⟨empty⟩

/-- What is wrong with one resource type of a connector type, given those before it. -/
def resourceTypeFault? (type : ConnectorType) (earlier : List String) (r : ResourceType) :
    Option Misconfiguration :=
  if earlier.contains r.id then some (.repeatedResourceType type.spec.id r.id)
  else match r.methods.find? fun m => (type.spec.method? m).isNone with
    | some m => some (.undeclaredMethod type.spec.id r.id m)
    | none =>
      if r.supportsInstances && (type.reader? r.id).isNone then
        some (.missingResolver type.spec.id r.id)
      else none

/-- What is wrong with resource types of a connector type, given those before them. -/
def resourceTypesFault? (type : ConnectorType) : List String → List ResourceType → Option Misconfiguration
  | _, [] => none
  | earlier, r :: rest =>
    (resourceTypeFault? type earlier r) <|> resourceTypesFault? type (r.id :: earlier) rest

/-- What is inconsistent in a connector type, if anything. -/
def fault? (type : ConnectorType) : Option Misconfiguration :=
  resourceTypesFault? type [] type.spec.resourceTypes

/-- A call on a registry. It fails or succeeds, and either way it leaves a registry. -/
abbrev Call (ι α : Type) : Type := ExceptT Failure (StateM (Registry ι)) α

/-- The registry after a call that succeeds, or the failure of one that does not. -/
def Call.result (call : Call ι Unit) (r : Registry ι) : Except Failure (Registry ι) :=
  let (outcome, r') := call.run r
  outcome.map fun _ => r'

/-- Refuse a connector type whose description is inconsistent. -/
def Call.validate (type : ConnectorType) : Call ι Unit :=
  match fault? type with
  | some problem => throw (.configuration problem none)
  | none => pure ()

/-- Register a connector type, in place: the extended catalogue takes the place of the old one at the end. -/
def Call.register (type : ConnectorType) : Call ι Unit := do
  let r ← getThe (Registry ι)
  if r.types.contains type.spec.id then throw (.duplicateType type.spec.id)
  Call.validate type
  modify fun r => { r with types := r.types.insert type.spec.id type }

/-- Register a connector type. -/
def register (r : Registry ι) (type : ConnectorType) : Except Failure (Registry ι) :=
  (Call.register type).result r

/-- The connector type of an identifier, if it is registered. -/
def find? (r : Registry ι) (id : String) : Option ConnectorType := r.types.get? id

/-- The connector type of an identifier. -/
def get (r : Registry ι) (id : String) : Except Failure ConnectorType :=
  match r.find? id with
  | some type => .ok type
  | none => .error (.unknownType id)

/-- Whether a connector type is registered. -/
def has (r : Registry ι) (id : String) : Bool := r.types.contains id

/-- The registered connector types, oldest first. -/
def list (r : Registry ι) : List ConnectorType := r.types.values

/-- Name a live connector of a registered type, in place. -/
def Call.addConnector (name : String) (typeId : String) (connector : ι) : Call ι Unit := do
  let r ← getThe (Registry ι)
  if r.instances.contains name then throw (.duplicateConnector name)
  let _ ← ExceptT.mk (pure (r.get typeId))
  modify fun r => { r with instances := r.instances.insert name connector }

/-- Name a live connector of a registered type. -/
def addConnector (r : Registry ι) (name : String) (typeId : String) (connector : ι) :
    Except Failure (Registry ι) :=
  (Call.addConnector name typeId connector).result r

/-- The live connector of a name. -/
def getConnector (r : Registry ι) (name : String) : Except Failure ι :=
  match r.instances.get? name with
  | some connector => .ok connector
  | none => .error (.unknownConnector name)

/-- Remove a live connector. The name is free at once. -/
def removeConnector (r : Registry ι) (name : String) : Registry ι × List (RemovalEffect ι) :=
  let number := r.removed
  let r := { r with removed := number + 1 }
  match r.instances.get? name with
  | none => (r, [.settled number (.ok false)])
  | some connector =>
    ({ r with
        instances := r.instances.erase name
        removals := r.removals.insert number connector },
      [.disconnect number connector])

/-- A removed connector has disconnected. -/
def disconnected (r : Registry ι) (removal : Nat) (result : Except Failure Unit) :
    Registry ι × List (RemovalEffect ι) :=
  if r.removals.contains removal then
    ({ r with removals := r.removals.erase removal },
      [.settled removal (result.map fun _ => true)])
  else (r, [])

end Registry

end ServiceAccess
