import ServiceAccess.Proofs.Credentials.Admission

/-! # Validation of bundles

A bundle that meets its schema is to be accepted, and any other one is to be refused with all that is wrong with it. But
the values of a bundle are written into a plain object, and the fields are read from it. A value under the key of the
shared object is lost there, and a field that has no value reads what is inherited under its name.

* **`Bundle.Misreads`**: a field reads what is inherited. **`Schema.FoundAt`**: where problems are found
  (`mem_paths_iff`).
* **`Credentials.Keeps`**: what accepted credentials hold. **`AuthMethod.Validates`**: a bundle that meets the schema is
  accepted and kept; another one is refused, and the refusal names every place where it falls short.
* **`AuthMethod.validates_iff`**: validation is exact, but for these names. A value under the key of the shared object is
  not found undeclared, and a field that reads what is inherited is refused, required or not
  (`not_validates_closed`). -/

namespace ServiceAccess

/-! ## Reading from the shared object -/

/-- **A field that is read from the shared object**: something is inherited under its name, and the object that holds the
values of the bundle has no member of its own there. -/
def Bundle.Misreads (b : Bundle) (field : String) : Prop :=
  Object.Inherits field ∧ (field = Object.sharedKey ∨ ¬ b.Holds field)

namespace Bundle

variable {b : Bundle} {field key : String} {rule : FieldRule} {v : Json}

/-- The keys of the object that holds the values are those that have one, but for the key of the shared object. -/
theorem mem_keys_given : key ∈ b.given.keys ↔ key ≠ Object.sharedKey ∧ b.Holds key := by
  rw [Table.mem_keys_iff, holds_iff, get?_given]
  by_cases shared : key = Object.sharedKey <;> simp [shared]

/-- **What a field reads**: something inherited exactly when it is misread. -/
theorem value?_eq_inherited_iff : Schema.value? b.given field rule = some .inherited ↔ b.Misreads field := by
  rw [Schema.value?_eq_inherited_iff, Table.get?_eq_none_iff, mem_keys_given, and_comm, Misreads, not_and_or, not_not]

/-- A field that reads anything else is not misread. -/
theorem not_misreads_of_value? {found : Option (Member Json)} (held : Schema.value? b.given field rule = found)
    (other : found ≠ some .inherited) : ¬ b.Misreads field :=
  fun misread => other (held.symm.trans (value?_eq_inherited_iff.2 misread))

/-- Any other field reads its value. -/
theorem fills_iff (read : ¬ b.Misreads field) :
    b.Fills field rule v ↔ Schema.value? b.given field rule = some (.own v) := by
  have apart : field ≠ Object.sharedKey := by
    rintro rfl
    exact read ⟨Object.inherits_sharedKey, .inl rfl⟩
  rw [fills_iff_or, Schema.value?_eq_own_iff, get?_given, if_neg apart]
  refine or_congr_right (and_congr_right fun nothing => (and_iff_right fun inherits => ?_).symm)
  refine read ⟨inherits, .inr fun holds => ?_⟩
  obtain ⟨w, held⟩ := holds_iff.1 holds
  cases nothing.symm.trans held

/-- A field without a value is one that reads nothing. -/
theorem not_fills_iff (read : ¬ b.Misreads field) :
    (∀ v, ¬ b.Fills field rule v) ↔ Schema.value? b.given field rule = none := by
  simp only [fills_iff read]
  rcases held : Schema.value? b.given field rule with _ | w | _
  · simp
  · simp
  · exact absurd (value?_eq_inherited_iff.1 held) read

end Bundle

namespace Schema

variable {s : Schema} {b : Bundle} {path : List String}

/-! ## Where problems are found -/

/-- **Where problems are found.** -/
inductive FoundAt (s : Schema) (b : Bundle) : List String → Prop
  /-- At a required field that reads nothing. -/
  | missing {field : String} {rule : FieldRule} : s.fields.get? field = some rule → ¬ b.Misreads field →
      rule.optional = false → (∀ v, ¬ b.Fills field rule v) → FoundAt s b [field]
  /-- At a key that is not declared, where these are forbidden. The key of the shared object is not found. -/
  | unexpected {key : String} : s.additional = some false → key ≠ Object.sharedKey → b.Holds key →
      s.fields.get? key = none → FoundAt s b [key]
  /-- At a value of a declared field, or inside it. -/
  | unfit {field : String} {rule : FieldRule} {v : Json} {path : List String} : s.fields.get? field = some rule →
      ¬ b.Misreads field → b.Fills field rule v → rule.kind.FailsAt v path → FoundAt s b (field :: path)
  /-- At a field that reads what is inherited, unless it takes anything. -/
  | misread {field : String} {rule : FieldRule} : s.fields.get? field = some rule → b.Misreads field →
      rule.kind ≠ .any ∨ field = Object.sharedKey ∧ rule.optional = false → FoundAt s b [field]

theorem mem_missing_paths : path ∈ (s.missing b.given).map Problem.path ↔ ∃ field rule,
    s.fields.get? field = some rule ∧ rule.optional = false ∧
      (value? b.given field rule = none ∨ field = Object.sharedKey) ∧ path = [field] := by
  simp only [missing, List.mem_map, List.mem_filterMap, Prod.exists, ← Table.get?_eq_some_iff]
  constructor
  · rintro ⟨_, ⟨field, rule, declared, found⟩, rfl⟩
    split at found
    · next empty =>
      obtain rfl := Option.some.inj found
      simp only [Bool.and_eq_true, Bool.not_eq_true', Bool.or_eq_true, Option.isNone_iff_eq_none, beq_iff_eq] at empty
      exact ⟨field, rule, declared, empty.1, empty.2, rfl⟩
    · cases found
  · rintro ⟨field, rule, declared, needed, empty, rfl⟩
    exact ⟨⟨[field], .missing⟩, ⟨field, rule, declared, by simp [needed, empty]⟩, rfl⟩

theorem mem_unexpected_paths : path ∈ (s.unexpected b.given).map Problem.path ↔ ∃ key,
    s.additional = some false ∧ (key ≠ Object.sharedKey ∧ b.Holds key) ∧ s.fields.get? key = none ∧ path = [key] := by
  rw [unexpected]
  split
  · next forbidden =>
    simp only [List.map_map, List.mem_map, List.mem_filter, Bundle.mem_keys_given, Table.contains_eq_isSome,
      Bool.not_eq_true', Option.isSome_eq_false_iff, Option.isNone_iff_eq_none, forbidden, true_and]
    exact exists_congr fun key => by rw [and_assoc]; exact and_congr_right' (and_congr_right' eq_comm)
  · next open_ => simp [open_]

theorem mem_illFormed_paths : path ∈ (s.illFormed b.given).map Problem.path ↔ ∃ field rule,
    s.fields.get? field = some rule ∧
      ((∃ v rest, value? b.given field rule = some (.own v) ∧ path = field :: rest ∧ rule.kind.FailsAt v rest) ∨
      ((value? b.given field rule = some .inherited ∨ rule.optional = false ∧ value? b.given field rule = none) ∧
        path ∈ (rule.kind.problems field none).map Problem.path)) := by
  simp only [illFormed, List.map_flatMap, List.mem_flatMap, Prod.exists, ← Table.get?_eq_some_iff]
  refine exists₂_congr fun field rule => and_congr_right fun _ => ?_
  rcases value? b.given field rule with _ | v | _
  · cases rule.optional <;> simp
  · simp [Kind.mem_paths_iff]
  · simp

/-- **Problems are found at these places** and no others. -/
theorem mem_paths_iff : path ∈ (s.problems b.given).map Problem.path ↔ s.FoundAt b path := by
  rw [problems, List.map_append, List.map_append, List.mem_append, List.mem_append, mem_missing_paths,
    mem_unexpected_paths, mem_illFormed_paths]
  constructor
  · rintro ((⟨field, rule, declared, needed, empty, rfl⟩ | ⟨key, forbidden, ⟨apart, held⟩, undeclared, rfl⟩) |
      ⟨field, rule, declared, ⟨v, rest, filled, rfl, fails⟩ | ⟨empty, here⟩⟩)
    · by_cases misread : b.Misreads field
      · -- a field that is misread reads something: it is missing only under the key of the shared object
        rcases empty with nothing | shared
        · exact absurd misread (Bundle.not_misreads_of_value? nothing (by simp))
        · exact .misread declared misread (.inr ⟨shared, needed⟩)
      · refine .missing declared misread needed ((Bundle.not_fills_iff misread).2 (empty.resolve_right ?_))
        rintro rfl
        exact misread ⟨Object.inherits_sharedKey, .inl rfl⟩
    · exact .unexpected forbidden apart held undeclared
    · have read : ¬ b.Misreads field := Bundle.not_misreads_of_value? filled (by simp)
      exact .unfit declared read ((Bundle.fills_iff read).2 filled) fails
    · -- what is wrong without a value is found at the field itself
      rw [Kind.eq_of_mem_paths_none here]
      rcases empty with inherited | ⟨needed, nothing⟩
      · refine .misread declared (Bundle.value?_eq_inherited_iff.1 inherited) (.inl fun any => ?_)
        simp [any, Kind.problems] at here
      · have read : ¬ b.Misreads field := Bundle.not_misreads_of_value? nothing (by simp)
        exact .missing declared read needed ((Bundle.not_fills_iff read).2 nothing)
  · rintro (⟨declared, read, needed, empty⟩ | ⟨forbidden, apart, held, undeclared⟩ | ⟨declared, read, filled, fails⟩ |
      ⟨declared, misread, typed | ⟨rfl, needed⟩⟩)
    · exact .inl (.inl ⟨_, _, declared, needed, .inl ((Bundle.not_fills_iff read).1 empty), rfl⟩)
    · exact .inl (.inr ⟨_, forbidden, ⟨apart, held⟩, undeclared, rfl⟩)
    · exact .inr ⟨_, _, declared, .inl ⟨_, _, (Bundle.fills_iff read).1 filled, rfl, fails⟩⟩
    · exact .inr ⟨_, _, declared, .inr ⟨.inl (Bundle.value?_eq_inherited_iff.2 misread),
        Kind.mem_paths_none typed _⟩⟩
    · exact .inl (.inl ⟨_, _, declared, needed, .inr rfl, rfl⟩)

/-- Nothing is found exactly when there is no such place. -/
theorem problems_eq_nil_iff : s.problems b.given = [] ↔ ∀ path, ¬ s.FoundAt b path := by
  simp only [← mem_paths_iff, ← List.eq_nil_iff_forall_not_mem, List.map_eq_nil_iff]

/-! ## What is found and what is not -/

/-- Where a bundle falls short of the schema a problem is found, unless a key or a field is not what it seems. -/
theorem FailsAt.cases (fails : s.FailsAt b path) : s.FoundAt b path ∨
    (s.additional = some false ∧ s.fields.get? Object.sharedKey = none ∧ b.Holds Object.sharedKey) ∨
    ∃ field rule rest, path = field :: rest ∧ s.fields.get? field = some rule ∧ b.Misreads field := by
  cases fails with
  | @missing field rule declared needed empty =>
    by_cases misread : b.Misreads field
    · exact .inr (.inr ⟨_, _, _, rfl, declared, misread⟩)
    · exact .inl (.missing declared misread needed empty)
  | @unexpected key forbidden held undeclared =>
    by_cases shared : key = Object.sharedKey
    · subst shared
      exact .inr (.inl ⟨forbidden, undeclared, held⟩)
    · exact .inl (.unexpected forbidden shared held undeclared)
  | @unfit field rule v rest declared filled fails =>
    by_cases misread : b.Misreads field
    · exact .inr (.inr ⟨_, _, _, rfl, declared, misread⟩)
    · exact .inl (.unfit declared misread filled fails)

/-- Where a problem is found a bundle falls short of the schema, unless a field is misread. -/
theorem FoundAt.failsAt (found : s.FoundAt b path)
    (read : ∀ field rule, s.fields.get? field = some rule → ¬ b.Misreads field) : s.FailsAt b path := by
  cases found with
  | missing declared _ needed empty => exact .missing declared needed empty
  | unexpected forbidden _ held undeclared => exact .unexpected forbidden held undeclared
  | unfit declared _ filled fails => exact .unfit declared filled fails
  | misread declared misread _ => exact absurd misread (read _ _ declared)

/-- At a declared field that is misread, only the field itself is found. -/
theorem FoundAt.of_misread {field : String} {rule : FieldRule} (found : s.FoundAt b (field :: path))
    (declared : s.fields.get? field = some rule) (misread : b.Misreads field) :
    path = [] ∧ (rule.kind = .any → field = Object.sharedKey) := by
  cases found with
  | missing _ read => exact absurd misread read
  | unexpected _ _ _ undeclared => cases undeclared.symm.trans declared
  | unfit _ read => exact absurd misread read
  | misread declared' _ known =>
    obtain rfl := Option.some.inj (declared.symm.trans declared')
    exact ⟨rfl, fun any => (known.resolve_left (absurd any)).1⟩

end Schema

/-! ## Messages -/

/-- **A line of a text**, other than the first. -/
def Text.HasLine (text line : String) : Prop :=
  ∃ before after, text = before ++ "\n" ++ line ++ after ∧ (after = "" ∨ ∃ rest, after = "\n" ++ rest)

/-- Lines that are written below a head are lines of the whole. -/
theorem Text.hasLine_intercalate (head : String) {lines : List String} {line : String} (here : line ∈ lines) :
    HasLine (head ++ "\n" ++ String.intercalate "\n" lines) line := by
  induction lines generalizing head with
  | nil => simp at here
  | cons first rest ih =>
    cases rest with
    | nil =>
      obtain rfl := List.mem_singleton.1 here
      exact ⟨head, "", by rw [String.intercalate_singleton, String.append_empty], .inl rfl⟩
    | cons second rest =>
      rw [String.intercalate_cons_cons]
      rcases List.mem_cons.1 here with rfl | later
      · exact ⟨head, "\n" ++ String.intercalate "\n" (second :: rest), by simp only [String.append_assoc], .inr ⟨_, rfl⟩⟩
      · simpa only [String.append_assoc] using ih (head ++ "\n" ++ first) later

/-- Every problem of a bundle has a line in the message that it is refused with. -/
theorem Misconfiguration.hasLine_invalidBundle (method : String) {problems : List Problem} {p : Problem}
    (here : p ∈ problems) : Text.HasLine (invalidBundle method problems).message ("  - " ++ p.message) := by
  have colon : "\":\n" = "\":" ++ "\n" := rfl
  have shown : (invalidBundle method problems).message = "Invalid configuration for auth method \"" ++ method ++ "\":"
      ++ "\n" ++ String.intercalate "\n" (problems.map fun p => "  - " ++ p.message) := by
    calc (invalidBundle method problems).message
        = "Invalid configuration for auth method \"" ++ method ++ "\":\n"
          ++ String.intercalate "\n" (problems.map fun p => "  - " ++ p.message) := rfl
      _ = _ := by rw [colon]; simp only [String.append_assoc]
  rw [shown]
  exact Text.hasLine_intercalate _ (List.mem_map_of_mem here)

/-! ## Credentials -/

/-- **What accepted credentials hold** of a bundle. -/
structure Credentials.Keeps (c : Credentials) (m : AuthMethod) (b : Bundle) : Prop where
  /-- They are those of the auth method. -/
  method : c.method = m.id
  /-- Their fields stand in the order of the schema. -/
  order : c.fields.Sublist m.schema.fields.keys
  /-- They hold the values of the declared fields that have one, those of secret fields as secrets. -/
  held : ∀ field value, c.get? field = some value ↔ ∃ rule v, m.schema.fields.get? field = some rule ∧
    b.Fills field rule v.toJson ∧ value = if rule.secret then .secret ⟨v.display⟩ else .plain v

/-- **How a bundle is refused.** -/
structure AuthMethod.Refuses (m : AuthMethod) (b : Bundle) (failure : Failure) : Prop where
  /-- It is found misconfigured. -/
  misconfigured : ∃ problem, failure = .configuration problem none
  /-- Every place where it falls short of the schema is that of a problem, and each problem has a line in the message. -/
  named : ∀ path, m.schema.FailsAt b path → ∃ problems p, failure = .configuration (.invalidBundle m.id problems) none ∧
    p ∈ problems ∧ p.path = path ∧ Text.HasLine failure.message ("  - " ++ p.message)

/-- **Validation of a bundle, as it should be.** -/
structure AuthMethod.Validates (m : AuthMethod) (b : Bundle) : Prop where
  /-- The bundle is accepted exactly when it meets the schema. -/
  accepted : (∃ c, Credentials.parse m b = .ok c) ↔ m.schema.Accepts b
  /-- Accepted credentials hold what they should. -/
  kept : ∀ c, Credentials.parse m b = .ok c → c.Keeps m b
  /-- Otherwise it is refused as it should be. -/
  refused : ∀ failure, Credentials.parse m b = .error failure → m.Refuses b failure

/-- **A bundle that is read as it is given**, as far as it matters. -/
structure AuthMethod.ReadsPlainly (m : AuthMethod) (b : Bundle) : Prop where
  /-- No value is lost that should be found undeclared. -/
  noticed : m.schema.additional = some false → m.schema.fields.get? Object.sharedKey = none →
    ¬ b.Holds Object.sharedKey
  /-- Where a declared field is misread, the bundle does not meet the schema anyway. -/
  refused : ∀ field rule, m.schema.fields.get? field = some rule → b.Misreads field → ¬ m.schema.Accepts b
  /-- It may fall short of it in that field: not inside its value, and not for want of a value if anything will do. -/
  named : ∀ field rule path, m.schema.fields.get? field = some rule → b.Misreads field →
    m.schema.FailsAt b (field :: path) → path = [] ∧ (rule.kind = .any → field = Object.sharedKey)

namespace Credentials

variable {m : AuthMethod} {b : Bundle} {c : Credentials}

/-- No field of an accepted bundle is misread. -/
theorem not_misreads_of_accepted (accepted : parse m b = .ok c) {field : String} {rule : FieldRule}
    (declared : m.schema.fields.get? field = some rule) : ¬ b.Misreads field := by
  intro misread
  have takes := (parse_eq_ok_iff.1 accepted).1 field rule declared
  rw [Bundle.value?_eq_inherited_iff.2 misread] at takes
  exact takes

/-- Accepted credentials hold what they should. -/
theorem keeps_of_accepted (accepted : parse m b = .ok c) : c.Keeps m b where
  method := by
    obtain ⟨-, -, rfl⟩ := parse_eq_ok_iff.1 accepted
    rfl
  order := by
    obtain ⟨-, -, rfl⟩ := parse_eq_ok_iff.1 accepted
    exact Table.keys_filterMap_sublist _ _
  held := by
    intro field value
    rw [get?_of_accepted accepted, Option.bind_eq_some_iff]
    refine exists_congr fun rule => ?_
    constructor
    · rintro ⟨declared, kept⟩
      obtain ⟨v, read, rfl⟩ := Option.map_eq_some_iff.1 kept
      obtain ⟨member, filled, plain⟩ := Option.bind_eq_some_iff.1 read
      obtain rfl := Scalar.ofMember?_eq_some_iff.1 plain
      exact ⟨v, declared, (Bundle.fills_iff (not_misreads_of_accepted accepted declared)).2 filled, rfl⟩
    · rintro ⟨v, declared, filled, rfl⟩
      refine ⟨declared, ?_⟩
      rw [(Bundle.fills_iff (not_misreads_of_accepted accepted declared)).1 filled, Option.bind_some,
        Scalar.ofMember?_toJson, Option.map_some]
      rfl

/-- In an accepted bundle no problem is found, and all values are plain. -/
theorem not_foundAt_of_accepted (accepted : parse m b = .ok c) :
    (∀ path, ¬ m.schema.FoundAt b path) ∧ ∀ field rule v, m.schema.fields.get? field = some rule →
      b.Fills field rule v → ∃ w : Scalar, v = w.toJson := by
  obtain ⟨takes, unexpected, -⟩ := parse_eq_ok_iff.1 accepted
  obtain ⟨missing, illFormed, -⟩ := (Schema.takes_iff _ _).1 takes
  refine ⟨?_, fun field rule v declared filled => ?_⟩
  · rw [← Schema.problems_eq_nil_iff, Schema.problems, missing, unexpected, illFormed]
    rfl
  · have fine := takes field rule declared
    rw [(Bundle.fills_iff (not_misreads_of_accepted accepted declared)).1 filled] at fine
    obtain ⟨w, read⟩ := Option.isSome_iff_exists.1 fine.2
    exact ⟨w, (Scalar.toJson_of_ofJson? read).symm⟩

/-- A bundle in which a problem is found is refused with the problems. -/
theorem parse_of_foundAt (found : ∃ path, m.schema.FoundAt b path) :
    parse m b = .error (.configuration (.invalidBundle m.id (m.schema.problems b.given)) none) := by
  have some : m.schema.problems b.given ≠ [] := by
    rw [Ne, Schema.problems_eq_nil_iff]
    exact fun nowhere => found.elim nowhere
  rw [parse]
  split
  · next none => exact absurd none some
  · rfl

/-- A bundle is accepted when no field is misread, no problem is found and all values are plain. -/
theorem exists_accepted (read : ∀ field rule, m.schema.fields.get? field = some rule → ¬ b.Misreads field)
    (nowhere : ∀ path, ¬ m.schema.FoundAt b path)
    (plain : ∀ field rule v, m.schema.fields.get? field = some rule → b.Fills field rule v →
      ∃ w : Scalar, v = w.toJson) : ∃ c, parse m b = .ok c := by
  have fine := Schema.problems_eq_nil_iff.2 nowhere
  rw [Schema.problems, List.append_eq_nil_iff, List.append_eq_nil_iff] at fine
  obtain ⟨⟨missing, unexpected⟩, illFormed⟩ := fine
  refine ⟨_, parse_eq_ok_iff.2 ⟨(Schema.takes_iff _ _).2 ⟨missing, illFormed, ?_⟩, unexpected, rfl⟩⟩
  refine Schema.unkept_eq_none_iff.2 fun field rule declared member held => ?_
  cases member with
  | own v =>
    obtain ⟨w, rfl⟩ := plain field rule v declared ((Bundle.fills_iff (read field rule declared)).2 held)
    rw [Scalar.ofMember?_toJson]
    rfl
  | inherited => exact absurd (Bundle.value?_eq_inherited_iff.1 held) (read field rule declared)

/-- A place is named in a refusal exactly when a problem is found there. -/
theorem foundAt_of_named {failure : Failure} {path : List String} (refused : parse m b = .error failure)
    {problems : List Problem} {p : Problem} (same : failure = .configuration (.invalidBundle m.id problems) none)
    (here : p ∈ problems) (there : p.path = path) : m.schema.FoundAt b path := by
  by_cases found : ∃ path, m.schema.FoundAt b path
  · rw [parse_of_foundAt found, same] at refused
    obtain rfl : m.schema.problems b.given = problems := by injections
    rw [← Schema.mem_paths_iff, ← there]
    exact List.mem_map_of_mem here
  · -- without a problem the failure is another one
    have fine := Schema.problems_eq_nil_iff.2 (not_exists.1 found)
    rw [parse, fine] at refused
    dsimp only at refused
    split at refused
    · cases refused
    · rw [same] at refused
      injections

/-- What is found is named. -/
theorem exists_named {failure : Failure} {path : List String} (refused : parse m b = .error failure)
    (found : m.schema.FoundAt b path) : ∃ problems p, failure = .configuration (.invalidBundle m.id problems) none ∧
      p ∈ problems ∧ p.path = path ∧ Text.HasLine failure.message ("  - " ++ p.message) := by
  rw [parse_of_foundAt ⟨path, found⟩] at refused
  obtain rfl := Except.error.inj refused
  obtain ⟨p, here, there⟩ := List.mem_map.1 (Schema.mem_paths_iff.2 found)
  exact ⟨_, p, rfl, here, there, Misconfiguration.hasLine_invalidBundle m.id here⟩

end Credentials

namespace AuthMethod

open Credentials

variable {m : AuthMethod} {b : Bundle}

/-- What a bundle that is validated as it should be is like. -/
theorem Validates.readsPlainly (h : m.Validates b) : m.ReadsPlainly b where
  noticed forbidden undeclared held := by
    have fails : m.schema.FailsAt b [Object.sharedKey] := .unexpected forbidden held undeclared
    cases result : parse m b with
    | ok c => exact (Schema.accepts_iff.1 (h.accepted.1 ⟨c, result⟩)).1 _ fails
    | error failure =>
      obtain ⟨problems, p, same, here, there, -⟩ := (h.refused failure result).named _ fails
      -- the key of the shared object is found only where it is declared
      cases foundAt_of_named result same here there with
      | unexpected _ apart => exact apart rfl
      | missing declared | unfit declared | misread declared => cases undeclared.symm.trans declared
  refused field rule declared misread accepts := by
    obtain ⟨c, accepted⟩ := h.accepted.2 accepts
    exact not_misreads_of_accepted accepted declared misread
  named field rule path declared misread fails := by
    cases result : parse m b with
    | ok c => exact absurd misread (not_misreads_of_accepted result declared)
    | error failure =>
      obtain ⟨problems, p, same, here, there, -⟩ := (h.refused failure result).named _ fails
      exact (foundAt_of_named result same here there).of_misread declared misread

/-- Where a bundle that is read as it is given falls short of the schema, a problem is found. -/
theorem ReadsPlainly.foundAt (h : m.ReadsPlainly b) {path : List String} (fails : m.schema.FailsAt b path) :
    m.schema.FoundAt b path := by
  rcases fails.cases with found | ⟨forbidden, undeclared, held⟩ | ⟨field, rule, rest, rfl, declared, misread⟩
  · exact found
  · exact absurd held (h.noticed forbidden undeclared)
  · obtain ⟨rfl, shared⟩ := h.named field rule rest declared misread fails
    refine .misread declared misread ?_
    by_cases any : rule.kind = .any
    · -- what takes anything falls short of the schema only for want of a value
      refine .inr ⟨shared any, ?_⟩
      cases fails with
      | missing declared' needed =>
        obtain rfl := Option.some.inj (declared.symm.trans declared')
        exact needed
      | unexpected _ _ undeclared => cases undeclared.symm.trans declared
      | unfit declared' _ unfit =>
        obtain rfl := Option.some.inj (declared.symm.trans declared')
        rw [any] at unfit
        rcases Kind.failsAt_iff.1 unfit with ⟨-, unfit⟩ | ⟨_, _, _, _, _, array, -⟩
        · exact absurd (.any _) unfit
        · cases array
    · exact .inl any

/-- **Validation is exact, but for inherited names.** A bundle is accepted exactly when it meets the schema, kept as it
should be and otherwise refused with every place where it falls short, unless a value under the key of the shared object
is lost that should be found undeclared, or a declared field reads what is inherited and is refused for that: although
the bundle meets the schema, or in place of what is wrong inside its value, or so late that nothing is named. -/
theorem validates_iff (m : AuthMethod) (b : Bundle) : m.Validates b ↔ m.ReadsPlainly b := by
  refine ⟨Validates.readsPlainly, fun plainly => ⟨⟨?_, fun accepts => ?_⟩, fun c => keeps_of_accepted,
    fun failure result => ⟨configuration_of_parse result, fun path fails => ?_⟩⟩⟩
  · rintro ⟨c, accepted⟩
    obtain ⟨nowhere, plain⟩ := not_foundAt_of_accepted accepted
    exact Schema.accepts_iff.2 ⟨fun path fails => nowhere path (plainly.foundAt fails), plain⟩
  · have read : ∀ field rule, m.schema.fields.get? field = some rule → ¬ b.Misreads field :=
      fun field rule declared misread => plainly.refused field rule declared misread accepts
    obtain ⟨nowhere, plain⟩ := Schema.accepts_iff.1 accepts
    exact exists_accepted read (fun path found => nowhere path (found.failsAt read)) plain
  · exact exists_named result (plainly.foundAt fails)

/-! ## A lost key and an inherited value -/

/-- An auth method that takes a text, if there is one, under a name where something is inherited, and nothing else. -/
def closed : AuthMethod where
  id := "closed"
  name := "Closed"
  description := "Takes a text."
  schema := {
    fields := .ofList [("toString", ⟨none, .text none none none, false, true, none⟩)]
    additional := some false }

/-- No bundle falls short of it that is empty. -/
theorem accepts_closed : closed.schema.Accepts ∅ := by
  have fields : closed.schema.fields.entries = [("toString", ⟨none, .text none none none, false, true, none⟩)] := rfl
  have only {field : String} {rule : FieldRule} (declared : closed.schema.fields.get? field = some rule) :
      rule = ⟨none, .text none none none, false, true, none⟩ := by
    rw [Table.get?_eq_some_iff, fields, List.mem_singleton] at declared
    exact (Prod.ext_iff.1 declared).2
  have empty {field : String} {rule : FieldRule} {v : Json} (declared : closed.schema.fields.get? field = some rule) :
      ¬ Bundle.Fills ∅ field rule v := by
    obtain rfl := only declared
    rw [Bundle.fills_iff_or]
    simp
  refine ⟨fun field rule declared needed => ?_, fun _ key held => ?_, fun field rule v declared filled => ?_,
    fun field rule v declared filled => ?_⟩
  · obtain rfl := only declared
    cases needed
  · obtain ⟨i, here, -⟩ := held
    cases here
  · exact absurd filled (empty declared)
  · exact absurd filled (empty declared)

/-- **A key that is not declared is accepted** when it is that of the shared object, **and a field that may be left out is
refused** when it is, where something is inherited under its name. -/
theorem not_validates_closed :
    ¬ closed.Validates (.ofList [("toString", .value (.str "t")), ("__proto__", .value (.bool true))]) ∧
    ¬ closed.Validates ∅ := by
  constructor
  · intro validates
    have accepts := validates.accepted.1 ⟨_, rfl⟩
    obtain ⟨rule, declared⟩ := accepts.declared rfl "__proto__" ⟨.value (.bool true), rfl, by simp⟩
    cases declared
  · intro validates
    obtain ⟨c, accepted⟩ := validates.accepted.2 accepts_closed
    cases accepted

end AuthMethod

end ServiceAccess
