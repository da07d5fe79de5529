import ServiceAccess.Credentials.Pattern
import ServiceAccess.Credentials.Problem
import ServiceAccess.Credentials.Secret
import ServiceAccess.Json.Basic
import ServiceAccess.Object
import ServiceAccess.Text.Utf16

/-! # Schemas of credential bundles

A `Schema` declares the fields of a bundle. The values of a bundle are written into a plain object, which is
then completed: a declared field without a value takes its default. `Schema.problems` then lists everything
that is wrong: required fields without a value, keys that are not declared, and the faults of every value, in
this order.

The fields are read from the object as they stand there: under some names something is inherited where no
value is given, and then no default is taken and the field is not absent. -/

namespace ServiceAccess

/-- A value that a bundle can hold under a key. -/
inductive Input where
  /-- The key is present without a value. -/
  | absent
  /-- A JSON value. -/
  | value (v : Json)
  /-- A secret. -/
  | secret (s : Secret)

/-- The value that an input stands for: secrets in the clear, nothing for an absent one. -/
def Input.value? : Input → Option Json
  | .absent => none
  | .value v => some v
  | .secret s => some (.str s.cleartext)

/-- Raw credentials: inputs under distinct keys, in order. -/
abbrev Bundle := Table String Input

/-- The values of a bundle, as the object holds them into which they are written. The key of the shared object
gives it no member. -/
def Bundle.given (b : Bundle) : Table String Json :=
  b.filterMap fun key i => if key = Object.sharedKey then none else i.value?

/-- The limits of a numeric field. -/
structure Limits where
  /-- The value must be less. -/
  below : Option Number
  /-- The value must be greater. -/
  above : Option Number
  /-- The greatest value. -/
  greatest : Option Number
  /-- The least value. -/
  least : Option Number
  /-- The value must be a multiple. -/
  step : Option Number

/-- No limits. -/
def Limits.none : Limits := ⟨Option.none, Option.none, Option.none, Option.none, Option.none⟩

/-- The bounds that limits set, in the order in which they are checked. -/
def Limits.bounds (l : Limits) : List Bound :=
  (l.below.map Bound.below).toList ++ (l.above.map Bound.above).toList
    ++ (l.greatest.map Bound.atMost).toList ++ (l.least.map Bound.atLeast).toList
    ++ (l.step.map Bound.multipleOf).toList

/-- The kinds of field. -/
inductive Kind where
  /-- A text, with limits on its length and a pattern. -/
  | text (least most : Option Nat) (pattern : Option Pattern)
  /-- A number within limits. -/
  | numeric (kind : NumberKind) (limits : Limits)
  /-- A truth value. -/
  | flag
  /-- An array, all of whose items are of one kind. -/
  | array (items : Kind)
  /-- Anything. -/
  | any

namespace Kind

/-- An array of texts. -/
@[match_pattern] def texts : Kind := .array (.text none none none)

/-- The faults of a text, by its length and its form. -/
def textFaults (least most : Option Nat) (pattern : Option Pattern) (s : String) : List Fault :=
  ((least.filter fun n => Text.length16 s < n).map Fault.tooShort).toList
    ++ ((most.filter fun n => n < Text.length16 s).map Fault.tooLong).toList
    ++ ((pattern.filter fun p => !p.accepts s).map fun p => .mismatch p.source).toList

/-- Whether a number is of a kind. Infinities are of none. -/
def isOfKind : NumberKind → Number → Bool
  | .integer, n => n.isInteger
  | .number, n => n.isFinite

/-- What is wrong with a value of a field, or with having no value. A value of the wrong type has no
other fault. The items of an array are checked in turn, each under its place. -/
def problems (field : String) : Kind → Option Json → List Problem
  | .text least most pattern, some (.str s) =>
    (textFaults least most pattern s).map fun f => ⟨[field], f⟩
  | .text .., _ => [⟨[field], .notText⟩]
  | .numeric kind limits, some (.num n) =>
    if isOfKind kind n then
      (limits.bounds.filter fun b => !b.holds n).map fun b => ⟨[field], .outOfBound kind b⟩
    else [⟨[field], .notNumeric kind⟩]
  | .numeric kind _, _ => [⟨[field], .notNumeric kind⟩]
  | .flag, some (.bool _) => []
  | .flag, _ => [⟨[field], .notFlag⟩]
  | .array items, some (.arr values) =>
    values.zipIdx.flatMap fun (v, i) => (items.problems (toString i) (some v)).map (Problem.under field)
  | .array _, _ => [⟨[field], .notArray⟩]
  | .any, _ => []

end Kind

/-- The rule of one field. -/
structure FieldRule where
  /-- What the field is for. -/
  description : Option String
  /-- The values that it takes. -/
  kind : Kind
  /-- Its value is a secret. -/
  secret : Bool
  /-- It may be left out. -/
  optional : Bool
  /-- Its value when it is left out. -/
  default : Option Json

/-- The rule of a required secret text, not empty. -/
def FieldRule.secretText (description : Option String) : FieldRule :=
  ⟨description, .text (some 1) none none, true, false, none⟩

/-- The declared fields of a bundle. -/
structure Schema where
  /-- The rules, in order. -/
  fields : Table String FieldRule
  /-- Whether keys that are not declared are accepted; they are unless this forbids them. -/
  additional : Option Bool

namespace Schema

/-- The value of a field: the given one, else what is inherited under its name, else the default. (A default
that is an object or an array is not told from another one in a field under the key of the shared object.) -/
def value? (given : Table String Json) (field : String) (rule : FieldRule) : Option (Member Json) :=
  given.read field <|> rule.default.map .own

section
variable {given : Table String Json} {field : String} {rule : FieldRule}

/-- A field has its own value when one is given, or when there is a default and nothing else. -/
theorem value?_eq_own_iff {v : Json} : value? given field rule = some (.own v) ↔ given.get? field = some v ∨
    given.get? field = none ∧ ¬ Object.Inherits field ∧ rule.default = some v := by
  simp [value?, Table.read_eq_own_iff, Table.read_eq_none_iff, and_assoc]

/-- A field reads what is inherited when no value is given. -/
theorem value?_eq_inherited_iff :
    value? given field rule = some .inherited ↔ given.get? field = none ∧ Object.Inherits field := by
  simp [value?, Table.read_eq_inherited_iff]

/-- A field has no value when none is given, nothing is inherited and there is no default. -/
theorem value?_eq_none_iff : value? given field rule = none ↔
    given.get? field = none ∧ ¬ Object.Inherits field ∧ rule.default = none := by
  simp [value?, Table.read_eq_none_iff, and_assoc]

/-- The value of a field depends on the one that is given. -/
theorem value?_congr {given' : Table String Json} (same : given'.get? field = given.get? field) :
    value? given' field rule = value? given field rule := by
  rw [value?, value?, Table.read_congr same]

end

/-- The required fields that the completed object does not have as its own. It gets what it has read, unless
that is the shared object itself. -/
def missing (s : Schema) (given : Table String Json) : List Problem :=
  s.fields.entries.filterMap fun (field, rule) =>
    if !rule.optional && ((value? given field rule).isNone || field == Object.sharedKey) then
      some ⟨[field], .missing⟩
    else none

/-- The keys that are not declared, where these are forbidden. -/
def unexpected (s : Schema) (given : Table String Json) : List Problem :=
  if s.additional = some false then
    (given.keys.filter fun k => !s.fields.contains k).map fun k => ⟨[k], .unexpected⟩
  else []

/-- The faults of the values. A required field without a value lacks its type as well, and so does every field
that reads what is inherited. -/
def illFormed (s : Schema) (given : Table String Json) : List Problem :=
  s.fields.entries.flatMap fun (field, rule) =>
    match value? given field rule with
    | some (.own v) => rule.kind.problems field (some v)
    | some .inherited => rule.kind.problems field none
    | none => if rule.optional then [] else rule.kind.problems field none

/-- Everything that is wrong with the values of a bundle. -/
def problems (s : Schema) (given : Table String Json) : List Problem :=
  s.missing given ++ s.unexpected given ++ s.illFormed given

end Schema

/-- One authentication method of a connector type. -/
structure AuthMethod where
  /-- Its identifier. -/
  id : String
  /-- Its name for people. -/
  name : String
  /-- What it does. -/
  description : String
  /-- The bundles that it takes. -/
  schema : Schema

namespace FieldRule

/-- The members of the JSON form of limits. -/
def limitMembers (l : Limits) : List (String × Json) :=
  let entry := fun (name : String) (n : Option Number) => (n.map fun n => (name, Json.num n)).toList
  entry "exclusiveMaximum" l.below ++ entry "exclusiveMinimum" l.above ++ entry "maximum" l.greatest
    ++ entry "minimum" l.least ++ entry "multipleOf" l.step

/-- The members of the JSON form of a kind. -/
def kindMembers : Kind → List (String × Json)
  | .text least most pattern =>
    let length := fun (name : String) (n : Option Nat) =>
      (n.map fun n => (name, Json.num (Number.ofNat n))).toList
    [("type", .str "string")] ++ length "minLength" least ++ length "maxLength" most
      ++ (pattern.map fun p => ("pattern", Json.str p.source)).toList
  | .numeric kind limits => ("type", .str kind.word) :: limitMembers limits
  | .flag => [("type", .str "boolean")]
  | .array items => [("type", .str "array"), ("items", .obj (kindMembers items))]
  | .any => []

/-- The JSON form of a rule. -/
def toJson (r : FieldRule) : Json :=
  .obj (kindMembers r.kind
    ++ (r.description.map fun d => ("description", Json.str d)).toList
    ++ (r.default.map fun d => ("default", d)).toList
    ++ if r.secret then [("secret", .bool true)] else [])

end FieldRule

/-- The JSON form of a schema. -/
def Schema.toJson (s : Schema) : Json :=
  .obj ([("type", .str "object"),
      ("required", .arr (s.fields.entries.filterMap fun (field, rule) =>
        if rule.optional then none else some (.str field))),
      ("properties", .obj (s.fields.entries.map fun (field, rule) => (field, rule.toJson)))]
    ++ (s.additional.map fun b => ("additionalProperties", Json.bool b)).toList)

end ServiceAccess
