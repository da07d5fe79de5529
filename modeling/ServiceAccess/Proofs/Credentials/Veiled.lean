import ServiceAccess.Proofs.Credentials.Accepted

/-! # What credentials show

Two credentials are alike when they differ in nothing but the clear text of their secrets. All that is
written of them, the fingerprint apart, is then the same.

* **`Credentials.Alike`**: the same method and the same fields with the same values, secrets aside.
* **`Credentials.Alike.shown`**: credentials that are alike are written in the same way.
* **`Credentials.alike_of_accepted`**: bundles that agree in the clear and fill the same secret fields are
  accepted as credentials that are alike. -/

namespace ServiceAccess

/-! ## Credentials without their secrets -/

namespace FieldValue

/-- A value without what it holds as a secret. -/
def veiled : FieldValue → FieldValue
  | .plain v => .plain v
  | .secret _ => .secret ⟨""⟩

/-- The JSON form of a value; a secret shows its mask. -/
def toJson : FieldValue → Json
  | .plain v => v.toJson
  | .secret s => .str s.display

end FieldValue

namespace Credentials

variable {a b : Credentials}

/-- The plain form of credentials as JSON. -/
def plainJson (c : Credentials) : Json := .obj (c.values.entries.map fun e => (e.1, e.2.toJson))

/-- **Credentials that differ in the clear text of secrets only.** -/
structure Alike (a b : Credentials) : Prop where
  /-- The auth method. -/
  method : a.method = b.method
  /-- The values, secrets aside. -/
  values : a.values.map (fun _ v => v.veiled) = b.values.map fun _ v => v.veiled

/-- What can be told without the secrets is the same of credentials that are alike. -/
theorem Alike.map_entries {β : Type} (h : a.Alike b) {f : FieldValue → β}
    (blind : ∀ v, f v.veiled = f v) :
    a.values.entries.map (fun e => (e.1, f e.2)) = b.values.entries.map fun e => (e.1, f e.2) := by
  have same := congrArg (fun t : Table String FieldValue => t.entries.map fun e => (e.1, f e.2)) h.values
  simpa only [Table.map, List.map_map, Function.comp_def, blind] using same

/-- **Credentials that are alike are written in the same way.** -/
theorem Alike.shown (h : a.Alike b) :
    a.fields = b.fields ∧ a.masked = b.masked ∧ a.plainJson = b.plainJson := by
  refine ⟨?_, ?_, ?_⟩
  · have same := congrArg Table.keys h.values
    rwa [Table.keys_map, Table.keys_map] at same
  · exact Table.ext (h.map_entries fun v => by cases v <;> rfl)
  · exact congrArg Json.obj (h.map_entries fun v => by cases v <;> rfl)

/-- A field of credentials that are alike holds nothing, the same in the clear, or some secret. -/
theorem Alike.get?_cases (h : a.Alike b) (field : String) :
    (a.get? field = none ∧ b.get? field = none) ∨
      (∃ v, a.get? field = some (.plain v) ∧ b.get? field = some (.plain v)) ∨
      ∃ s t, a.get? field = some (.secret s) ∧ b.get? field = some (.secret t) := by
  have same : (a.get? field).map FieldValue.veiled = (b.get? field).map FieldValue.veiled := by
    have values := congrArg (fun t : Table String FieldValue => t.get? field) h.values
    simp only [Table.get?_map] at values
    exact values
  rcases left : a.get? field with _ | v | s <;> rcases right : b.get? field with _ | w | t <;>
    simp [left, right, FieldValue.veiled] at same ⊢
  exact same.symm

/-- Secrets are no infinities, so credentials are finite when those that are alike are. -/
theorem Alike.finite (h : a.Alike b) (finite : a.Finite) : b.Finite := by
  have revealed : ∀ (c : Credentials) field,
      c.revealed.get? field = (c.get? field).map FieldValue.reveal := fun c field => Table.get?_map ..
  intro field v held
  rw [revealed] at held
  rcases h.get?_cases field with ⟨-, right⟩ | ⟨w, left, right⟩ | ⟨s, t, -, right⟩ <;>
    simp only [right, Option.map_none, Option.map_some, reduceCtorEq, Option.some.injEq,
      FieldValue.reveal] at held
  · exact finite field v (by rw [revealed, left, ← held]; rfl)
  · rw [← held]
    trivial

end Credentials

/-! ## Bundles -/

/-- **Bundles that differ in their secrets only**: they give the same for the other declared fields, and
something for the same secret ones. -/
structure AuthMethod.AgreeInClear (m : AuthMethod) (b b' : Bundle) : Prop where
  /-- The same is given for a field that is no secret. -/
  clear : ∀ field rule, m.schema.fields.get? field = some rule → rule.secret = false →
    b.given.get? field = b'.given.get? field
  /-- The same secret fields are filled. -/
  filled : ∀ field rule, m.schema.fields.get? field = some rule → rule.secret = true →
    (b.given.get? field).isSome = (b'.given.get? field).isSome

/-- Field by field: the same is given, or something for a secret. -/
theorem AuthMethod.agreeInClear_of_keys {m : AuthMethod} {b b' : Bundle}
    (fields : ∀ field ∈ m.schema.fields.keys, b.given.get? field = b'.given.get? field ∨
      (m.schema.fields.get? field).any (·.secret) = true ∧
        (b.given.get? field).isSome = (b'.given.get? field).isSome) : m.AgreeInClear b b' := by
  constructor
  · intro field rule declared clear
    rcases fields field (Table.mem_keys_iff.2 ⟨rule, declared⟩) with same | ⟨secret, -⟩
    · exact same
    · simp [declared, clear] at secret
  · intro field rule declared _
    rcases fields field (Table.mem_keys_iff.2 ⟨rule, declared⟩) with same | ⟨-, filled⟩
    · rw [same]
    · exact filled

namespace Credentials

variable {m : AuthMethod} {b b' : Bundle} {c c' : Credentials}

/-- A field keeps the same of bundles that agree in the clear, secrets aside. -/
theorem veiled_kept (accepted : parse m b = .ok c) (accepted' : parse m b' = .ok c')
    (agree : m.AgreeInClear b b') {field : String} {rule : FieldRule}
    (declared : m.schema.fields.get? field = some rule) :
    (c.get? field).map FieldValue.veiled = (c'.get? field).map FieldValue.veiled := by
  cases secret : rule.secret with
  | false =>
    have value : Schema.value? b.given field rule = Schema.value? b'.given field rule :=
      Schema.value?_congr (agree.clear field rule declared secret)
    rw [get?_of_accepted accepted, get?_of_accepted accepted', declared, Option.bind_some,
      Option.bind_some, value]
  | true =>
    have filled := agree.filled field rule declared secret
    -- either both take a value, which is veiled, or both take the default
    have both : (Schema.value? b.given field rule).isSome
        = (Schema.value? b'.given field rule).isSome := by
      cases left : b.given.get? field <;> cases right : b'.given.get? field <;>
        simp only [left, right, Option.isSome_none, Option.isSome_some, Bool.false_eq_true, Bool.true_eq_false]
          at filled
      · rw [Schema.value?_congr (left.trans right.symm)]
      · rw [Schema.value?_eq_own_iff.2 (.inl left), Schema.value?_eq_own_iff.2 (.inl right)]
        rfl
    rcases cases_of_accepted accepted declared with ⟨left, none⟩ | ⟨v, left, some⟩ <;>
      rcases cases_of_accepted accepted' declared with ⟨right, none'⟩ | ⟨w, right, some'⟩
    · rw [left, right]
    · simp [none, some'] at both
    · simp [some, none'] at both
    · rw [left, right, FieldRule.keep_secret secret, FieldRule.keep_secret secret]
      rfl

/-- **Bundles that agree in the clear are accepted as credentials that are alike.** -/
theorem alike_of_accepted (accepted : parse m b = .ok c) (accepted' : parse m b' = .ok c')
    (agree : m.AgreeInClear b b') : c.Alike c' := by
  have kept : ∀ field rule, m.schema.fields.get? field = some rule →
      (c.get? field).map FieldValue.veiled = (c'.get? field).map FieldValue.veiled :=
    fun _ _ => veiled_kept accepted accepted' agree
  obtain ⟨-, -, rfl⟩ := parse_eq_ok_iff.1 accepted
  obtain ⟨-, -, rfl⟩ := parse_eq_ok_iff.1 accepted'
  refine ⟨rfl, Table.ext ?_⟩
  simp only [Table.map, Schema.kept, Table.entries_filterMap, List.map_filterMap, Option.map_map]
  refine List.filterMap_congr fun e here => ?_
  have declared := Table.get?_eq_some_iff.2 here
  have same := congrArg (Option.map (e.1, ·)) (kept e.1 e.2 declared)
  simpa only [get?, Schema.kept, Table.get?_filterMap, declared, Option.bind_some, Option.map_map,
    Function.comp_def] using same

end Credentials

end ServiceAccess
