import ServiceAccess.Proofs.Credentials.Fingerprint

/-! # Which bundles are accepted

A bundle is accepted field by field, and an accepted bundle is kept field by field.

* **`Credentials.parse_eq_ok_iff`**: a bundle is accepted exactly when every declared field takes its
  value and no key is unexpected.
* **`Schema.Guarded`**: every field that takes anything is a secret. Only such schemas keep infinities
  out of the clear: `Credentials.finite_of_guarded` and `Credentials.guarded_iff`. -/

namespace ServiceAccess

/-! ## Given values -/

/-- The value that is given for a key: that of the bundle, unless the key is that of the shared object. -/
theorem Bundle.get?_given (b : Bundle) (key : String) :
    b.given.get? key = if key = Object.sharedKey then none else (b.get? key).bind Input.value? := by
  rw [given, Table.get?_filterMap]
  by_cases shared : key = Object.sharedKey
  · cases b.get? key <;> simp [shared]
  · simp [shared]

/-- No value is given for the key of the shared object. -/
theorem Bundle.get?_given_sharedKey (b : Bundle) : b.given.get? Object.sharedKey = none := by
  rw [get?_given, if_pos rfl]

/-! ## Fields -/

/-- A field takes a value of its own, or takes that there is none. It does not take what is inherited. -/
def FieldRule.Takes (r : FieldRule) (field : String) : Option (Member Json) → Prop
  | none => r.optional = true
  | some (.own v) => r.kind.problems field (some v) = [] ∧ (Scalar.ofJson? v).isSome = true
  | some .inherited => False

namespace Scalar

theorem toJson_of_ofJson? {j : Json} {v : Scalar} (h : ofJson? j = some v) : v.toJson = j := by
  cases j <;> simp only [ofJson?, Option.some.injEq, reduceCtorEq] at h <;> subst h <;> rfl

/-- Only a member of the object's own is a plain value. -/
theorem ofMember?_eq_some_iff {member : Member Json} {v : Scalar} :
    ofMember? member = some v ↔ member = .own v.toJson := by
  cases member with
  | own j =>
    constructor
    · intro plain
      rw [toJson_of_ofJson? plain]
    · rintro ⟨rfl⟩
      exact ofJson?_toJson v
  | inherited => simp [ofMember?]

/-- A text is shown as it is. -/
theorem display_text (s : String) : (text s).display = s := by simp [display, toJson, Json.display]

end Scalar

/-- A text field takes texts only. -/
theorem Kind.eq_text_of_problems {field : String} {least most : Option Nat} {pattern : Option Pattern}
    {v : Scalar} (fine : problems field (.text least most pattern) (some v.toJson) = []) :
    ∃ s, v = .text s := by
  cases v with
  | text s => exact ⟨s, rfl⟩
  | number | flag => simp [Scalar.toJson, problems] at fine

namespace FieldRule

theorem keep_secret {r : FieldRule} (h : r.secret = true) (v : Scalar) :
    r.keep v = .secret ⟨v.display⟩ := if_pos h

theorem keep_plain {r : FieldRule} (h : r.secret = false) (v : Scalar) : r.keep v = .plain v :=
  if_neg (by simp [h])

end FieldRule

namespace Schema

/-- Every field that takes anything is a secret. -/
def Guarded (s : Schema) : Prop :=
  ∀ field rule, s.fields.get? field = some rule → rule.kind = .any → rule.secret = true

/-- What holds of the declared pairs holds of what the names are looked up to. -/
theorem forall_fields {s : Schema} {P : String → FieldRule → Prop} :
    (∀ e ∈ s.fields.entries, P e.1 e.2) ↔ ∀ field rule, s.fields.get? field = some rule →
      P field rule := by
  simp only [Prod.forall, Table.get?_eq_some_iff]

theorem missing_eq_nil_iff {s : Schema} {given : Table String Json} :
    s.missing given = [] ↔ ∀ field rule, s.fields.get? field = some rule →
      value? given field rule = none ∨ field = Object.sharedKey → rule.optional = true := by
  rw [missing, List.filterMap_eq_nil_iff, ← forall_fields]
  refine forall₂_congr fun ⟨field, rule⟩ _ => ?_
  cases held : value? given field rule <;> cases skips : rule.optional <;> simp [held, skips]

theorem illFormed_eq_nil_iff {s : Schema} {given : Table String Json} :
    s.illFormed given = [] ↔ ∀ field rule, s.fields.get? field = some rule →
      match value? given field rule with
      | some (.own v) => rule.kind.problems field (some v) = []
      | some .inherited => rule.kind.problems field none = []
      | none => rule.optional = true ∨ rule.kind.problems field none = [] := by
  rw [illFormed, List.flatMap_eq_nil_iff, ← forall_fields]
  refine forall₂_congr fun ⟨field, rule⟩ _ => ?_
  rcases held : value? given field rule with _ | _ | _ <;> cases skips : rule.optional <;> simp [held, skips]

theorem unexpected_eq_nil_iff {s : Schema} {given : Table String Json} :
    s.unexpected given = [] ↔
      (s.additional = some false → ∀ k ∈ given.keys, k ∈ s.fields.keys) := by
  rw [unexpected]
  split
  · next closed => simp [closed]
  · next additional => simp [additional]

theorem unkept_eq_none_iff {s : Schema} {given : Table String Json} :
    s.unkept? given = none ↔ ∀ field rule, s.fields.get? field = some rule →
      ∀ v, value? given field rule = some v → (Scalar.ofMember? v).isSome = true := by
  rw [unkept?, Option.map_eq_none_iff, List.find?_eq_none, ← forall_fields]
  refine forall₂_congr fun ⟨field, rule⟩ _ => ?_
  cases held : value? given field rule <;> simp [held, Option.ne_none_iff_isSome]

/-- A field under the key of the shared object reads that object. -/
theorem value?_sharedKey (b : Bundle) (rule : FieldRule) :
    value? b.given Object.sharedKey rule = some .inherited :=
  value?_eq_inherited_iff.2 ⟨b.get?_given_sharedKey, Object.inherits_sharedKey⟩

/-- A field takes its value exactly when no check finds a fault. -/
theorem takes_iff (s : Schema) (b : Bundle) :
    (∀ field rule, s.fields.get? field = some rule →
      rule.Takes field (value? b.given field rule)) ↔
      s.missing b.given = [] ∧ s.illFormed b.given = [] ∧ s.unkept? b.given = none := by
  rw [missing_eq_nil_iff, illFormed_eq_nil_iff, unkept_eq_none_iff]
  constructor
  · intro takes
    refine ⟨fun field rule declared empty => ?_, fun field rule declared => ?_,
      fun field rule declared v held => ?_⟩ <;> have fine := takes field rule declared
    · rcases empty with none | rfl
      · rwa [none] at fine
      · rw [value?_sharedKey] at fine
        exact fine.elim
    · rcases held : value? b.given field rule with _ | v | _
      · exact .inl (by rwa [held] at fine)
      · exact (held ▸ fine : rule.Takes field (some (.own v))).1
      · exact (held ▸ fine : rule.Takes field (some .inherited)).elim
    · cases v with
      | own v => exact (held ▸ fine : rule.Takes field (some (.own v))).2
      | inherited => exact (held ▸ fine : rule.Takes field (some .inherited)).elim
  · rintro ⟨missing, illFormed, unkept⟩ field rule declared
    rcases held : value? b.given field rule with _ | v | _
    · exact missing field rule declared (.inl held)
    · have fine := illFormed field rule declared
      rw [held] at fine
      exact ⟨fine, unkept field rule declared (.own v) held⟩
    · -- what is inherited cannot be kept
      exact absurd (unkept field rule declared .inherited held) Bool.false_ne_true

end Schema

namespace Credentials

variable {m : AuthMethod} {b : Bundle} {c : Credentials}

/-- **A bundle is accepted field by field.** -/
theorem parse_eq_ok_iff : parse m b = .ok c ↔
    (∀ field rule, m.schema.fields.get? field = some rule →
      rule.Takes field (Schema.value? b.given field rule)) ∧
    m.schema.unexpected b.given = [] ∧ c = ⟨m.id, m.schema.kept b.given⟩ := by
  rw [Schema.takes_iff, parse, Schema.problems]
  cases m.schema.missing b.given <;> cases m.schema.unexpected b.given <;>
    cases m.schema.illFormed b.given <;> cases m.schema.unkept? b.given <;> simp [eq_comm]

/-- A bundle that is not accepted is found misconfigured. -/
theorem configuration_of_parse {failure : Failure} (h : parse m b = .error failure) :
    ∃ problem, failure = .configuration problem none := by
  rw [parse] at h
  split at h
  · split at h
    · simp at h
    · exact ⟨_, (Except.error.inj h).symm⟩
  · exact ⟨_, (Except.error.inj h).symm⟩

/-- Accepted credentials hold what their fields keep of the values given. -/
theorem get?_of_accepted (accepted : parse m b = .ok c) (field : String) :
    c.get? field = (m.schema.fields.get? field).bind fun rule =>
      ((Schema.value? b.given field rule).bind Scalar.ofMember?).map rule.keep := by
  obtain ⟨-, -, rfl⟩ := parse_eq_ok_iff.1 accepted
  simp only [get?, Schema.kept, Table.get?_filterMap]

/-- Where a bundle is accepted, no field stands under the key of the shared object. -/
theorem ne_sharedKey_of_accepted (accepted : parse m b = .ok c) {field : String} {rule : FieldRule}
    (declared : m.schema.fields.get? field = some rule) : field ≠ Object.sharedKey := by
  rintro rfl
  have fine := (parse_eq_ok_iff.1 accepted).1 _ rule declared
  rw [Schema.value?_sharedKey] at fine
  exact fine

/-- A declared field holds nothing, or it keeps the value that it has taken. -/
theorem cases_of_accepted (accepted : parse m b = .ok c) {field : String} {rule : FieldRule}
    (declared : m.schema.fields.get? field = some rule) :
    (c.get? field = none ∧ Schema.value? b.given field rule = none) ∨
      ∃ v : Scalar, c.get? field = some (rule.keep v) ∧
        Schema.value? b.given field rule = some (.own v.toJson) := by
  rw [get?_of_accepted accepted, declared, Option.bind_some]
  obtain ⟨takes, -, -⟩ := parse_eq_ok_iff.1 accepted
  have fine := takes field rule declared
  rcases value : Schema.value? b.given field rule with _ | j | _
  · exact .inl ⟨rfl, rfl⟩
  · rw [value] at fine
    obtain ⟨v, read⟩ := Option.isSome_iff_exists.1 fine.2
    obtain rfl := Scalar.toJson_of_ofJson? read
    exact .inr ⟨v, by rw [Option.bind_some, Scalar.ofMember?_toJson, Option.map_some], rfl⟩
  · rw [value] at fine
    exact fine.elim

/-- A text field holds a text, as a secret if it is one, or it may be left out and holds nothing. -/
theorem text_of_accepted (accepted : parse m b = .ok c) {field : String} {rule : FieldRule}
    (declared : m.schema.fields.get? field = some rule) {least most : Option Nat} {pattern : Option Pattern}
    (text : rule.kind = .text least most pattern) :
    (c.get? field = none ∧ rule.optional = true) ∨
      ∃ s, c.get? field = some (if rule.secret then .secret ⟨s⟩ else .plain (.text s)) := by
  obtain ⟨takes, -, -⟩ := parse_eq_ok_iff.1 accepted
  have fine := takes field rule declared
  rcases cases_of_accepted accepted declared with ⟨nothing, none⟩ | ⟨v, held, value⟩
  · rw [none] at fine
    exact .inl ⟨nothing, fine⟩
  · rw [value] at fine
    obtain ⟨s, rfl⟩ := Kind.eq_text_of_problems (text ▸ fine.1)
    rw [FieldRule.keep, Scalar.display_text] at held
    exact .inr ⟨s, held⟩

/-- Accepted credentials hold declared fields only. -/
theorem declared_of_accepted (accepted : parse m b = .ok c) {field : String} {v : FieldValue}
    (held : c.get? field = some v) : ∃ rule, m.schema.fields.get? field = some rule := by
  rw [get?_of_accepted accepted, Option.bind_eq_some_iff] at held
  obtain ⟨rule, declared, -⟩ := held
  exact ⟨rule, declared⟩

/-- Accepted credentials hold nothing under the key of the shared object. -/
theorem get?_sharedKey_of_accepted (accepted : parse m b = .ok c) : c.get? Object.sharedKey = none := by
  cases held : c.get? Object.sharedKey with
  | none => rfl
  | some v =>
    obtain ⟨rule, declared⟩ := declared_of_accepted accepted held
    exact absurd rfl (ne_sharedKey_of_accepted accepted declared)

/-- Credentials that one auth method has accepted are the same when their fields hold the same. -/
theorem eq_of_accepted {b' : Bundle} {c' : Credentials} (accepted : parse m b = .ok c)
    (accepted' : parse m b' = .ok c') (same : ∀ field rule, m.schema.fields.get? field = some rule →
      c.get? field = c'.get? field) : c = c' := by
  -- both list what their fields hold, in the order of the schema
  have listed : ∀ {b : Bundle} {c : Credentials}, parse m b = .ok c →
      c = ⟨m.id, m.schema.fields.filterMap fun field _ => c.get? field⟩ := by
    intro b c accepted
    have held := get?_of_accepted accepted
    obtain ⟨-, -, rfl⟩ := parse_eq_ok_iff.1 accepted
    refine congrArg (Credentials.mk m.id) (Table.ext (List.filterMap_congr fun e here => ?_))
    simp only [held, Table.get?_eq_some_iff.2 here, Option.bind_some]
  rw [listed accepted, listed accepted']
  refine congrArg (Credentials.mk m.id) (Table.ext (List.filterMap_congr fun e here => ?_))
  simp only [same e.1 e.2 (Table.get?_eq_some_iff.2 here)]

/-! ## Infinities -/

/-- The values of accepted credentials are those of the declared fields. -/
theorem revealed_kept (s : Schema) (given : Table String Json) (id field : String) :
    (⟨id, s.kept given⟩ : Credentials).revealed.get? field =
      (s.fields.get? field).bind fun rule =>
        ((Schema.value? given field rule).bind Scalar.ofMember?).map fun v => (rule.keep v).reveal := by
  simp only [revealed, Schema.kept, Table.get?_map, Table.get?_filterMap]
  cases s.fields.get? field <;> simp [Function.comp_def]

/-- A number that a field takes is finite, unless the field takes anything. -/
theorem finite_of_problems {field : String} {k : Kind} {n : Number}
    (fine : k.problems field (some (.num n)) = []) : k = .any ∨ n.isFinite = true := by
  cases k with
  | any => exact .inl rfl
  | numeric kind limits =>
    right
    rw [Kind.problems] at fine
    split at fine
    · next ofKind =>
      cases n with
      | finite => rfl
      | infinite => cases kind <;> simp [Kind.isOfKind, Number.isInteger, Number.isFinite] at ofKind
    · simp at fine
  | _ => simp [Kind.problems] at fine

/-- **A guarded schema accepts finite credentials only.** -/
theorem finite_of_guarded (guarded : m.schema.Guarded) (accepted : parse m b = .ok c) : c.Finite := by
  obtain ⟨takes, -, rfl⟩ := parse_eq_ok_iff.1 accepted
  intro field v held
  rw [revealed_kept, Option.bind_eq_some_iff] at held
  obtain ⟨rule, declared, held⟩ := held
  obtain ⟨w, read, rfl⟩ := Option.map_eq_some_iff.1 held
  obtain ⟨j, given, plain⟩ := Option.bind_eq_some_iff.1 read
  -- a secret is shown as a text; only what is kept in the clear can be an infinity
  rw [FieldRule.keep]
  split
  · exact trivial
  · next open_ =>
    cases w with
    | number n =>
      obtain rfl : j = .own (.num n) := Scalar.ofMember?_eq_some_iff.1 plain
      have fine := takes field rule declared
      rw [given] at fine
      rcases finite_of_problems fine.1 with any | finite
      · exact absurd (guarded field rule declared any) open_
      · exact finite
    | _ => exact trivial

/-- The values of a bundle with one more input. -/
theorem given_insert (b : Bundle) {field : String} (plain : field ≠ Object.sharedKey) (k : String) (i : Input) :
    (Bundle.given (b.insert field i)).get? k = if k = field then i.value? else b.given.get? k := by
  rw [Bundle.get?_given, Bundle.get?_given, Table.get?_insert]
  by_cases same : k = field
  · simp [same, plain]
  · simp [same]

/-- A field has the value that is given last. -/
theorem value?_insert (b : Bundle) {field : String} (plain : field ≠ Object.sharedKey) (k : String)
    (rule : FieldRule) (v : Json) : Schema.value? (Bundle.given (b.insert field (.value v))) k rule
      = if k = field then some (.own v) else Schema.value? b.given k rule := by
  have given := given_insert b plain k (.value v)
  split
  · next same => exact Schema.value?_eq_own_iff.2 (.inl (by rw [given, if_pos same]; rfl))
  · next other => exact Schema.value?_congr (by rw [given, if_neg other])

/-- A bundle is still accepted with another number in a field that takes anything. -/
theorem parse_insert (accepted : parse m b = .ok c) {field : String} {rule : FieldRule}
    (declared : m.schema.fields.get? field = some rule) (any : rule.kind = .any) (n : Number) :
    parse m (b.insert field (.value (.num n)))
      = .ok ⟨m.id, m.schema.kept (Bundle.given (b.insert field (.value (.num n))))⟩ := by
  have plain := ne_sharedKey_of_accepted accepted declared
  obtain ⟨takes, unexpected, -⟩ := parse_eq_ok_iff.1 accepted
  refine parse_eq_ok_iff.2 ⟨fun field' rule' declared' => ?_, ?_, rfl⟩
  · rw [value?_insert b plain]
    split
    · next same =>
      subst same
      obtain rfl := Option.some.inj (declared.symm.trans declared')
      have fine : rule.kind.problems field' (some (.num n)) = [] := by rw [any]; rfl
      exact ⟨fine, rfl⟩
    · exact takes field' rule' declared'
  · rw [Schema.unexpected_eq_nil_iff] at unexpected ⊢
    intro closed k here
    obtain ⟨v, given⟩ := Table.mem_keys_iff.1 here
    rw [given_insert b plain] at given
    split at given
    · next same =>
      subst same
      exact Table.mem_keys_iff.2 ⟨rule, declared⟩
    · exact unexpected closed k (Table.mem_keys_iff.2 ⟨v, given⟩)

/-- How the values of accepted credentials are written, field by field. -/
theorem written_kept (s : Schema) (given : Table String Json) (id : String) :
    (⟨id, s.kept given⟩ : Credentials).revealed.entries.map (fun e => (e.1, e.2.toJson.render))
      = s.fields.entries.filterMap fun e => ((Schema.value? given e.1 e.2).bind Scalar.ofMember?).map
        fun v => (e.1, (e.2.keep v).reveal.toJson.render) := by
  simp only [revealed, Schema.kept, Table.map, Table.entries_filterMap, List.map_filterMap,
    Option.map_map, Function.comp_def]

/-- **The text tells accepted credentials apart exactly when the schema is guarded.** Elsewhere it shows
both infinities as null. -/
theorem guarded_iff (accepted : parse m b = .ok c) : m.schema.Guarded ↔
    ∀ b₁ b₂ c₁ c₂, parse m b₁ = .ok c₁ → parse m b₂ = .ok c₂ →
      c₁.fingerprintText = c₂.fingerprintText → c₁.Agrees c₂ := by
  constructor
  · intro guarded b₁ b₂ c₁ c₂ accepted₁ accepted₂ same
    exact agrees_of_text (finite_of_guarded guarded accepted₁) (finite_of_guarded guarded accepted₂)
      same
  · intro apart field rule declared any
    by_contra clear
    rw [Bool.not_eq_true] at clear
    -- both infinities are accepted in the field and written as null
    have plain := ne_sharedKey_of_accepted accepted declared
    have infinite := fun negative => parse_insert accepted declared any (.infinite negative)
    have agree := apart _ _ _ _ (infinite false) (infinite true) ?_
    · -- the field itself holds the two infinities
      have value := agree.2 field
      simp only [revealed_kept, declared, Option.bind_some, value?_insert b plain, if_true, Scalar.ofMember?,
        Scalar.ofJson?, FieldRule.keep, clear, FieldValue.reveal] at value
      simp at value
    · refine text_congr rfl ?_
      rw [written_kept, written_kept]
      refine List.filterMap_congr fun e here => ?_
      rw [value?_insert b plain, value?_insert b plain]
      split
      · next same =>
        obtain rfl : e.2 = rule := Option.some.inj
          ((Table.get?_eq_some_iff.2 here).symm.trans (same ▸ declared))
        simp [Scalar.ofMember?, Scalar.ofJson?, FieldRule.keep, clear, FieldValue.reveal, Scalar.toJson,
          Json.render, Json.renderNumber, Number.isFinite]
      · rfl

end Credentials

end ServiceAccess
