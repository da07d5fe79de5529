import ServiceAccess.Proofs.Credentials.Validation

/-! # Reading credentials again

Credentials are what a schema has made of a bundle: defaults are filled in, keys that are not declared are dropped, and
the value of a secret field is kept as a text. Their own bundle shows all values in the clear. Where it is read again,
a field of numbers or of truth values does not take the text back that its value has been kept as.

* **`Credentials.Legible`**: every secret is held by a field that takes texts.
* **`Credentials.parse_toBundle`**: legible credentials are read again as what they are.
* **`Credentials.parse_toBundle_of_not_legible`**: all others are refused. -/

namespace ServiceAccess

/-- Whether there are texts among the values of a kind. -/
def Kind.takesTexts : Kind → Bool
  | .text .. | .any => true
  | _ => false

namespace FieldRule

variable {r : FieldRule} {field : String} {v : Scalar}

/-- What has been kept is kept as it is. -/
theorem keep_reveal (r : FieldRule) (v : Scalar) : r.keep (r.keep v).reveal = r.keep v := by
  cases secret : r.secret with
  | false => simp only [keep_plain secret, FieldValue.reveal]
  | true => simp only [keep_secret secret, FieldValue.reveal, Scalar.display_text]

/-- A field takes what it has kept, unless this is the text of a value of another kind. -/
theorem takes_reveal (taken : r.Takes field (some (.own v.toJson)))
    (legible : r.secret = true → r.kind.takesTexts = true) :
    r.Takes field (some (.own (r.keep v).reveal.toJson)) := by
  refine ⟨?_, by rw [Scalar.ofJson?_toJson]; rfl⟩
  cases secret : r.secret with
  | false =>
    rw [keep_plain secret]
    exact taken.1
  | true =>
    rw [keep_secret secret, FieldValue.reveal]
    have texts := legible secret
    have fine := taken.1
    cases kind : r.kind with
    | text least most pattern =>
      rw [kind] at fine
      cases v with
      | text s => rwa [Scalar.display_text]
      | number | flag => simp [Scalar.toJson, Kind.problems] at fine
    | any => rfl
    | _ => simp [kind, Kind.takesTexts] at texts

end FieldRule

namespace Credentials

variable {m : AuthMethod} {b : Bundle} {c : Credentials}

/-- **Credentials that can be read again**: every secret is held by a field that takes texts. -/
def Legible (c : Credentials) (m : AuthMethod) : Prop :=
  ∀ field rule, m.schema.fields.get? field = some rule → rule.secret = true → c.has field = true →
    rule.kind.takesTexts = true

section
variable (accepted : parse m b = .ok c)
include accepted

/-- The bundle of credentials gives what they hold, in the clear. -/
theorem get?_given_toBundle (field : String) :
    c.toBundle.given.get? field = (c.get? field).map fun v => v.reveal.toJson := by
  rw [Bundle.get?_given, ite_eq_iff]
  by_cases shared : field = Object.sharedKey
  · subst shared
    exact .inl ⟨rfl, by rw [get?_sharedKey_of_accepted accepted]; rfl⟩
  · refine .inr ⟨shared, ?_⟩
    simp only [toBundle, revealed, Table.get?_map, get?]
    cases c.values.get? field <;> rfl

/-- A field that holds nothing has no default either, and inherits nothing. -/
theorem value?_toBundle {field : String} {rule : FieldRule} (declared : m.schema.fields.get? field = some rule) :
    Schema.value? c.toBundle.given field rule = (c.get? field).map fun v => .own v.reveal.toJson := by
  have given := get?_given_toBundle accepted field
  rcases cases_of_accepted accepted declared with ⟨nothing, empty⟩ | ⟨v, held, -⟩
  · rw [nothing] at given ⊢
    obtain ⟨-, plain, default⟩ := Schema.value?_eq_none_iff.1 empty
    exact Schema.value?_eq_none_iff.2 ⟨given, plain, default⟩
  · rw [held] at given ⊢
    exact Schema.value?_eq_own_iff.2 (.inl given)

/-- **Legible credentials are read again as what they are.** -/
theorem parse_toBundle (legible : c.Legible m) : parse m c.toBundle = .ok c := by
  have accepted' : parse m c.toBundle = .ok ⟨m.id, m.schema.kept c.toBundle.given⟩ := by
    obtain ⟨takes, -, -⟩ := parse_eq_ok_iff.1 accepted
    refine parse_eq_ok_iff.2 ⟨fun field rule declared => ?_, ?_, rfl⟩
    · have taken := takes field rule declared
      rw [value?_toBundle accepted declared]
      rcases cases_of_accepted accepted declared with ⟨nothing, empty⟩ | ⟨v, held, given⟩
      · rw [empty] at taken
        rwa [nothing]
      · rw [given] at taken
        rw [held]
        refine FieldRule.takes_reveal taken fun secret => legible field rule declared secret ?_
        rw [has, Table.contains_eq_isSome]
        exact Option.isSome_of_eq_some held
    · refine Schema.unexpected_eq_nil_iff.2 fun _ key here => ?_
      obtain ⟨j, given⟩ := Table.mem_keys_iff.1 here
      rw [get?_given_toBundle accepted] at given
      obtain ⟨v, held, -⟩ := Option.map_eq_some_iff.1 given
      exact Table.mem_keys_iff.2 (declared_of_accepted accepted held)
  -- every field keeps what it has kept before
  refine accepted'.trans (congrArg Except.ok (eq_of_accepted accepted accepted' fun field rule declared => ?_).symm)
  rw [get?_of_accepted accepted' field, declared, Option.bind_some, value?_toBundle accepted declared]
  rcases cases_of_accepted accepted declared with ⟨nothing, -⟩ | ⟨v, held, -⟩
  · rw [nothing]
    rfl
  · rw [held, Option.map_some, Option.bind_some, Scalar.ofMember?_toJson, Option.map_some, FieldRule.keep_reveal]

/-- **Credentials that are not legible are refused**: a field does not take the text of its secret. -/
theorem parse_toBundle_of_not_legible (illegible : ¬ c.Legible m) :
    ∃ problems, parse m c.toBundle = .error (.configuration (.invalidBundle m.id problems) none) := by
  simp only [Legible, not_forall] at illegible
  obtain ⟨field, rule, declared, secret, held, typed⟩ := illegible
  rw [has, Table.contains_eq_isSome] at held
  obtain ⟨value, held⟩ := Option.isSome_iff_exists.1 held
  rcases cases_of_accepted accepted declared with ⟨nothing, -⟩ | ⟨v, kept, -⟩
  · cases nothing.symm.trans held
  have value : Schema.value? c.toBundle.given field rule = some (.own (.str v.display)) := by
    rw [value?_toBundle accepted declared, kept, FieldRule.keep_secret secret]
    rfl
  have read : ¬ c.toBundle.Misreads field := by
    intro misread
    have inherited : Schema.value? c.toBundle.given field rule = some .inherited :=
      Bundle.value?_eq_inherited_iff.2 misread
    simp [value] at inherited
  have filled := (Bundle.fills_iff read).2 value
  have unfit : ¬ rule.kind.Suits (.str v.display) := by
    intro suits
    generalize rule.kind = kind at typed suits
    cases suits <;> exact typed rfl
  exact ⟨_, parse_of_foundAt ⟨_, .unfit declared read filled (Kind.failsAt_iff.2 (.inl ⟨rfl, unfit⟩))⟩⟩

end

end Credentials

end ServiceAccess
