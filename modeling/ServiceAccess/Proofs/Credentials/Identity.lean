import ServiceAccess.Proofs.Connector.Provenance

/-! # What the fingerprint identifies

The hashed text lists the values sorted by name, so it depends on nothing but the method and the value
in the clear under each name, and for finite values it depends on all of them.

* **`Credentials.text_eq_of_agrees`**: credentials that agree are hashed from the same text, in whatever
  order their fields stand.
* **`Credentials.parse_reordered`**: the order of the declared fields and of the given values has no
  influence on what is accepted, nor on its fingerprint.
* **`Credentials.fingerprint_identifies`**: finite credentials have the same text exactly when they
  agree, and the same fingerprint exactly when they agree or two different texts collide. -/

namespace ServiceAccess

/-- Tables that look every key up to the same value have the same pairs, up to order. -/
theorem Table.perm_of_get?_eq {κ ν : Type} [DecidableEq κ] {s t : Table κ ν}
    (h : ∀ k, s.get? k = t.get? k) : s.entries.Perm t.entries := by
  refine (List.perm_ext_iff_of_nodup s.nodup.of_map t.nodup.of_map).2 fun ⟨k, v⟩ => ?_
  rw [← get?_eq_some_iff, ← get?_eq_some_iff, h k]

namespace Credentials

variable {a b c : Credentials}

/-! ## The sorted values -/

/-- The hashed values stand in the order of their names. -/
theorem pairwise_sorted (c : Credentials) :
    c.sorted.Pairwise fun e e' => Text.sortsBefore e.1 e'.1 = true :=
  Text.pairwise_mergeSort Prod.fst _

/-- **Credentials that agree are hashed in the same order.** A name stands for one value, so there is
only one way to sort them. -/
theorem sorted_eq_of_agrees (h : a.Agrees b) : a.sorted = b.sorted := by
  have perm : a.sorted.Perm b.sorted :=
    a.sorted_perm.trans ((Table.perm_of_get?_eq h.2).trans b.sorted_perm.symm)
  refine perm.eq_of_pairwise (fun e e' here there le le' => ?_) a.pairwise_sorted b.pairwise_sorted
  have name : e.1 = e'.1 := Text.sortsBefore_antisymm le le'
  have held := Table.get?_eq_some_iff.2 (a.sorted_perm.mem_iff.1 here)
  have held' := Table.get?_eq_some_iff.2 (b.sorted_perm.mem_iff.1 there)
  rw [h.2, name, held', Option.some.injEq] at held
  exact Prod.ext name held.symm

theorem text_eq_of_agrees (h : a.Agrees b) : a.fingerprintText = b.fingerprintText := by
  rw [fingerprintText_eq, fingerprintText_eq, h.1, sorted_eq_of_agrees h]

/-- **The text of finite credentials tells them apart.** -/
theorem text_eq_iff (finite : a.Finite) (finite' : b.Finite) :
    a.fingerprintText = b.fingerprintText ↔ a.Agrees b :=
  ⟨agrees_of_text finite finite', text_eq_of_agrees⟩

/-- Fingerprints are the same for the same text, and when two texts collide. -/
theorem fingerprint_eq_iff :
    a.fingerprint = b.fingerprint ↔ a.fingerprintText = b.fingerprintText ∨ a.Collide b := by
  constructor
  · intro same
    by_cases text : a.fingerprintText = b.fingerprintText
    · exact .inl text
    · exact .inr ⟨text, same⟩
  · rintro (text | collide)
    · rw [fingerprint, fingerprint, text]
    · exact collide.2

/-- Credentials that one auth method has accepted agree only when they are the same. -/
theorem eq_of_agrees {m : AuthMethod} {bundle bundle' : Bundle} (accepted : parse m bundle = .ok a)
    (accepted' : parse m bundle' = .ok b) (agrees : a.Agrees b) : a = b := by
  refine eq_of_accepted accepted accepted' fun field rule declared => ?_
  have revealed : (a.get? field).map FieldValue.reveal = (b.get? field).map FieldValue.reveal := by
    have value := agrees.2 field
    simp only [Credentials.revealed, Table.get?_map] at value
    exact value
  -- a field keeps what it holds as a secret, or it keeps it in the clear
  rcases cases_of_accepted accepted declared with ⟨left, -⟩ | ⟨v, left, -⟩ <;>
    rcases cases_of_accepted accepted' declared with ⟨right, -⟩ | ⟨w, right, -⟩ <;>
    rw [left, right] at revealed ⊢
  · cases revealed
  · cases revealed
  · have same := Option.some.inj revealed
    cases secret : rule.secret with
    | true =>
      rw [FieldRule.keep_secret secret, FieldRule.keep_secret secret] at same ⊢
      have shown : v.display = w.display := Scalar.text.inj same
      rw [shown]
    | false =>
      rw [FieldRule.keep_plain secret, FieldRule.keep_plain secret] at same ⊢
      exact congrArg (some ∘ FieldValue.plain) same

/-- Finite credentials that one auth method has accepted have the same fingerprint exactly when they are
the same, unless their texts collide. -/
theorem fingerprint_eq_iff_eq {m : AuthMethod} {bundle bundle' : Bundle}
    (accepted : parse m bundle = .ok a) (accepted' : parse m bundle' = .ok b) (finite : a.Finite)
    (finite' : b.Finite) (apart : ¬ a.Collide b) : a.fingerprint = b.fingerprint ↔ a = b := by
  rw [fingerprint_eq_iff, or_iff_left apart, text_eq_iff finite finite']
  constructor
  · exact eq_of_agrees accepted accepted'
  · rintro rfl
    exact ⟨rfl, fun _ => rfl⟩

/-! ## Orders of fields and inputs -/

/-- The order of the declared fields and of the given values has no influence on what is accepted. -/
theorem parse_reordered {m m' : AuthMethod} {bundle bundle' : Bundle}
    (accepted : parse m bundle = .ok a) (id : m'.id = m.id)
    (additional : m'.schema.additional = m.schema.additional)
    (fields : m'.schema.fields.entries.Perm m.schema.fields.entries)
    (inputs : bundle'.entries.Perm bundle.entries) :
    ∃ c, parse m' bundle' = .ok c ∧ c.Agrees a := by
  have declared : ∀ field, m'.schema.fields.get? field = m.schema.fields.get? field :=
    Table.get?_eq_of_perm fields
  have given : ∀ k, bundle'.given.get? k = bundle.given.get? k :=
    Table.get?_eq_of_perm (inputs.filterMap _)
  have value : ∀ field rule,
      Schema.value? bundle'.given field rule = Schema.value? bundle.given field rule := fun field _ =>
    Schema.value?_congr (given field)
  obtain ⟨takes, unexpected, rfl⟩ := parse_eq_ok_iff.1 accepted
  refine ⟨_, parse_eq_ok_iff.2 ⟨fun field rule here => ?_, ?_, rfl⟩, id, fun field => ?_⟩
  · rw [value]
    exact takes field rule (declared field ▸ here)
  · rw [Schema.unexpected_eq_nil_iff] at unexpected ⊢
    simpa only [Table.mem_keys_iff, given, declared, additional] using unexpected
  · rw [revealed_kept, revealed_kept, declared]
    simp only [value]

/-! ## The identity of credentials -/

/-- **A fingerprint identifies finite credentials.** Their texts are the same exactly when the method and
the value under every name are, their fingerprints exactly when these are or two different texts collide,
and the order of fields and inputs is of no influence. -/
theorem fingerprint_identifies (finite : a.Finite) (finite' : b.Finite) :
    (a.fingerprintText = b.fingerprintText ↔ a.Agrees b) ∧
    (a.fingerprint = b.fingerprint ↔ a.Agrees b ∨ a.Collide b) ∧
    ∀ m m' bundle bundle', parse m bundle = .ok a → m'.id = m.id →
      m'.schema.additional = m.schema.additional →
      m'.schema.fields.entries.Perm m.schema.fields.entries →
      bundle'.entries.Perm bundle.entries →
      ∃ c, parse m' bundle' = .ok c ∧ c.fingerprint = a.fingerprint := by
  refine ⟨text_eq_iff finite finite', ?_, ?_⟩
  · rw [fingerprint_eq_iff, text_eq_iff finite finite']
  · intro m m' bundle bundle' accepted id additional fields inputs
    obtain ⟨c, accepted', agrees⟩ := parse_reordered accepted id additional fields inputs
    exact ⟨c, accepted', fingerprint_eq_iff.2 (.inl (text_eq_of_agrees agrees))⟩

/-- Texts are finite values. -/
theorem finite_of_texts (texts : ∀ e ∈ c.values.entries, ∃ s, e.2.reveal = .text s) : c.Finite := by
  intro field v held
  obtain ⟨value, here, rfl⟩ := Option.map_eq_some_iff.1 ((Table.get?_map ..).symm.trans held)
  obtain ⟨s, text⟩ := texts _ (Table.get?_eq_some_iff.1 here)
  rw [text]
  trivial

/-- One text that holds the separators of the hashed text. -/
def joined : Credentials := ⟨"basic", [("a", .plain (.text "1\"],[\"b\",\"2"))], by decide⟩

/-- The two texts that it seems to hold. -/
def split : Credentials := ⟨"basic", [("b", .secret ⟨"2"⟩), ("a", .plain (.text "1"))], by decide⟩

/-- The two are told apart, unless their texts collide. -/
theorem fingerprint_identifies_split :
    joined.fingerprintText ≠ split.fingerprintText ∧
      (joined.fingerprint = split.fingerprint → joined.Collide split) := by
  have finite : joined.Finite := finite_of_texts (by simp [joined, FieldValue.reveal])
  have finite' : split.Finite := finite_of_texts (by simp [split, FieldValue.reveal])
  have apart : ¬ joined.Agrees split := fun agrees => by
    have value := agrees.2 "b"
    revert value
    decide
  obtain ⟨text, fingerprint, -⟩ := fingerprint_identifies finite finite'
  exact ⟨fun same => apart (text.1 same), fun same => (fingerprint.1 same).resolve_left apart⟩

end Credentials

end ServiceAccess
