import ServiceAccess.Credentials.Schema
import ServiceAccess.Digest.Sha256
import ServiceAccess.Failure

/-! # Credentials

`Credentials` are a bundle that met the schema of its auth method: the declared fields that hold a value,
in the order of the schema, those tagged as secret held as secrets. `Credentials.parse` is the only way
to make them from a bundle.

The fingerprint hashes `Credentials.fingerprintText`, which depends on the method and on the revealed
value of every field, and not on the order of the fields. -/

namespace ServiceAccess

/-- A plain field value. -/
inductive Scalar where
  /-- A text. -/
  | text (s : String)
  /-- A number. -/
  | number (n : Number)
  /-- A truth value. -/
  | flag (b : Bool)
deriving DecidableEq

namespace Scalar

/-- The plain value that a JSON value is. -/
def ofJson? : Json → Option Scalar
  | .str s => some (.text s)
  | .num n => some (.number n)
  | .bool b => some (.flag b)
  | _ => none

/-- The plain value that a member of an object is. What is inherited is none. -/
def ofMember? : Member Json → Option Scalar
  | .own v => ofJson? v
  | .inherited => none

/-- The JSON form of a plain value. -/
def toJson : Scalar → Json
  | .text s => .str s
  | .number n => .num n
  | .flag b => .bool b

/-- A plain value as a text. -/
def display (v : Scalar) : String := v.toJson.display

@[simp] theorem ofJson?_toJson (v : Scalar) : ofJson? v.toJson = some v := by cases v <;> rfl

@[simp] theorem ofMember?_toJson (v : Scalar) : ofMember? (.own v.toJson) = some v := ofJson?_toJson v

end Scalar

/-- The value of a field. -/
inductive FieldValue where
  /-- A plain value. -/
  | plain (v : Scalar)
  /-- A secret. -/
  | secret (s : Secret)
deriving DecidableEq

namespace FieldValue

/-- Whether a value is a secret. -/
def isSecret : FieldValue → Bool
  | .plain _ => false
  | .secret _ => true

/-- The value with secrets in the clear. -/
def reveal : FieldValue → Scalar
  | .plain v => v
  | .secret s => .text s.cleartext

/-- The value with secrets masked. -/
def masked : FieldValue → Scalar
  | .plain v => v
  | .secret s => .text s.display

end FieldValue

/-- Accepted credentials. -/
structure Credentials where
  /-- The auth method that accepted them. -/
  method : String
  /-- The fields that hold a value, in the order of the schema. -/
  values : Table String FieldValue

namespace FieldRule

/-- How a field keeps a plain value. -/
def keep (r : FieldRule) (v : Scalar) : FieldValue :=
  if r.secret then .secret ⟨v.display⟩ else .plain v

end FieldRule

namespace Schema

/-- The first declared field whose value cannot be kept. What is inherited cannot. -/
def unkept? (s : Schema) (given : Table String Json) : Option String :=
  (s.fields.entries.find? fun (field, rule) =>
    match value? given field rule with
    | some v => (Scalar.ofMember? v).isNone
    | none => false).map Prod.fst

/-- The declared fields that hold a value. -/
def kept (s : Schema) (given : Table String Json) : Table String FieldValue :=
  s.fields.filterMap fun field rule =>
    ((value? given field rule).bind Scalar.ofMember?).map rule.keep

end Schema

namespace Credentials

/-- Accept a bundle under an auth method, or say why not. -/
def parse (m : AuthMethod) (b : Bundle) : Except Failure Credentials :=
  let given := b.given
  match m.schema.problems given with
  | [] =>
    match m.schema.unkept? given with
    | none => .ok ⟨m.id, m.schema.kept given⟩
    | some field => .error (.configuration (.notScalar m.id field) none)
  | problems => .error (.configuration (.invalidBundle m.id problems) none)

/-- The names of the fields that hold a value. -/
def fields (c : Credentials) : List String := c.values.keys

/-- Whether a field holds a value. -/
def has (c : Credentials) (field : String) : Bool := c.values.contains field

/-- The value of a field. -/
def get? (c : Credentials) (field : String) : Option FieldValue := c.values.get? field

/-- Whether a field holds a secret. -/
def isSecret (c : Credentials) (field : String) : Bool :=
  ((c.get? field).map FieldValue.isSecret).getD false

/-- The plain text that a field holds, if it holds anything. -/
def string (c : Credentials) (field : String) : Except Failure (Option String) :=
  match c.get? field with
  | none => .ok none
  | some (.plain (.text s)) => .ok (some s)
  | some _ => .error (.configuration (.notPlainText field) none)

/-- The clear text of a secret field. -/
def secret (c : Credentials) (field : String) : Except Failure String :=
  match c.get? field with
  | some (.secret s) => .ok s.cleartext
  | _ => .error (.configuration (.notSecret c.method field) none)

/-- The clear text of a secret field, if it holds anything. -/
def optionalSecret (c : Credentials) (field : String) : Except Failure (Option String) :=
  if c.has field then (c.secret field).map some else .ok none

/-- The field values with secrets in the clear. -/
def revealed (c : Credentials) : Table String Scalar := c.values.map fun _ v => v.reveal

/-- The field values with secrets masked. -/
def masked (c : Credentials) : Table String Scalar := c.values.map fun _ v => v.masked

/-- The bundle that gives the credentials again, secrets in the clear. -/
def toBundle (c : Credentials) : Bundle := c.revealed.map fun _ v => .value v.toJson

/-- The text that is hashed: the method and the revealed fields, sorted by name. -/
def fingerprintText (c : Credentials) : String :=
  let sorted := c.revealed.entries.mergeSort fun a b => Text.sortsBefore a.1 b.1
  (Json.arr [.str c.method, .arr (sorted.map fun e => .arr [.str e.1, e.2.toJson])]).render

/-- The hash that changes with every change of a credential. -/
def fingerprint (c : Credentials) : String := Digest.sha256 c.fingerprintText

end Credentials

end ServiceAccess
