import ServiceAccess.Connector.Basic
import ServiceAccess.Registry

/-! # Stored connectors

A `ConnectorRecord` is the storage form of a connector's settings. Secret fields are marked; their clear
text is stored only on request and otherwise supplied again when the connector is restored. -/

namespace ServiceAccess

/-- The stored form of a field. -/
inductive StoredValue where
  /-- A value as it is. -/
  | plain (input : Input)
  /-- A secret field, with its value if that was stored. -/
  | secret (stored : Option Json)

/-- The storage form of a connector. -/
structure ConnectorRecord where
  /-- The connector type. -/
  type : String
  /-- The auth method. -/
  method : String
  /-- The resource type; a record may lack it where the auth method determines it. -/
  resourceType : Option String
  /-- The target. -/
  resourceId : Option String
  /-- The name. -/
  name : Option String
  /-- The fields of the credentials. -/
  fields : Table String StoredValue

/-- The stored form of a field value. -/
def FieldValue.stored (includeSecrets : Bool) : FieldValue → StoredValue
  | .plain v => .plain (.value v.toJson)
  | .secret s => .secret (if includeSecrets then some (.str s.cleartext) else none)

/-- The storage form of a connector. -/
def Connector.record (c : Connector) (includeSecrets : Bool) : ConnectorRecord where
  type := c.typeId
  method := c.method.id
  resourceType := some c.resourceType.id
  resourceId := c.resourceId
  name := c.name
  fields := c.credentials.values.map fun _ v => v.stored includeSecrets

namespace ConnectorRecord

/-- The input that a stored secret is. -/
def secretInput : Json → Input
  | .str s => .secret ⟨s⟩
  | other => .value other

/-- What a stored field gives to the bundle. A secret without a stored value, or with null for one, is taken
from the supplied secrets and is left out when they lack it. -/
def inputOf (secrets : Table String String) (field : String) : StoredValue → Option Input
  | .plain input => some input
  | .secret none | .secret (some .null) => (secrets.get? field).map fun s => .secret ⟨s⟩
  | .secret (some stored) => some (secretInput stored)

/-- Whether a stored field is no value at all. -/
def isNull : StoredValue → Bool
  | .plain (.value .null) => true
  | _ => false

/-- The bundle of a record. -/
def bundle (r : ConnectorRecord) (secrets : Table String String) : Bundle :=
  r.fields.filterMap (inputOf secrets)

/-- The settings of a record. -/
def settings (r : ConnectorRecord) (secrets : Table String String) : ConnectorSettings where
  method := r.method
  bundle := r.bundle secrets
  resourceType := r.resourceType
  resourceId := r.resourceId
  name := r.name

/-- The connector of a record, of a type from a registry. -/
def restore {ι : Type} (r : ConnectorRecord) (registry : Registry ι) (secrets : Table String String)
    (logger : Logger) : Except Failure Connector :=
  if r.fields.values.any isNull then .error (.wrongType "Cannot read properties of null (reading 'secret')")
  else do
    let type ← registry.get r.type
    Connector.make? type (r.settings secrets) logger

end ConnectorRecord

end ServiceAccess
