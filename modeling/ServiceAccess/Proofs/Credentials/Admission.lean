import ServiceAccess.Proofs.Credentials.Accepted

/-! # What a schema asks of a bundle

A bundle is completed, checked in several passes and looked through once more before it is kept. What is asked of it
is said here without the passes, field by field and value by value.

* **`Bundle.Fills`**: the value of a field: the given one, a secret in the clear, or else the default.
* **`Kind.Suits`**: a value meets a kind and its constraints. **`Kind.Admits`**: so does everything inside it.
* **`Kind.mem_paths_iff`**: the problems of a value are found where it does not.
* **`Schema.Accepts`**: all that is asked of a bundle. **`Schema.FailsAt`**: where a bundle falls short of the schema.
  Without such a place a bundle of plain values is accepted (`accepts_iff`). -/

namespace ServiceAccess

/-! ## The values of fields -/

/-- **The value of a field** in a bundle. -/
inductive Bundle.Fills (b : Bundle) (field : String) (rule : FieldRule) : Json → Prop
  /-- A value is given. -/
  | given {v : Json} : b.get? field = some (.value v) → Fills b field rule v
  /-- A secret is given: its clear text. -/
  | revealed {s : Secret} : b.get? field = some (.secret s) → Fills b field rule (.str s.cleartext)
  /-- The key is not there, and there is a default. -/
  | unlisted {v : Json} : b.get? field = none → rule.default = some v → Fills b field rule v
  /-- The key is there without a value, and there is a default. -/
  | withheld {v : Json} : b.get? field = some .absent → rule.default = some v → Fills b field rule v

/-- A key of a bundle that has a value. -/
def Bundle.Holds (b : Bundle) (key : String) : Prop := ∃ i, b.get? key = some i ∧ i ≠ .absent

namespace Bundle

variable {b : Bundle} {field key : String} {rule : FieldRule} {v : Json}

/-- A key has a value exactly when its input stands for one. -/
theorem holds_iff : b.Holds key ↔ ∃ v, (b.get? key).bind Input.value? = some v := by
  rw [Holds]
  simp only [Option.bind_eq_some_iff]
  constructor
  · rintro ⟨i, here, present⟩
    cases i with
    | absent => exact absurd rfl present
    | value v => exact ⟨v, _, here, rfl⟩
    | secret s => exact ⟨_, _, here, rfl⟩
  · rintro ⟨v, i, here, value⟩
    refine ⟨i, here, ?_⟩
    rintro rfl
    cases value

/-- The value of a field is the given one, or else the default. -/
theorem fills_iff_or : b.Fills field rule v ↔
    (b.get? field).bind Input.value? = some v ∨ (b.get? field).bind Input.value? = none ∧ rule.default = some v := by
  constructor
  · rintro (here | here | ⟨here, default⟩ | ⟨here, default⟩) <;> simp [Input.value?, *]
  · intro held
    cases here : b.get? field with
    | none => exact .unlisted here (by simpa [here] using held)
    | some i =>
      rw [here] at held
      cases i with
      | absent => exact .withheld here (by simpa [Input.value?] using held)
      | value w =>
        obtain rfl : w = v := by simpa [Input.value?] using held
        exact .given here
      | secret s =>
        obtain rfl : .str s.cleartext = v := by simpa [Input.value?] using held
        exact .revealed here

end Bundle

/-! ## Kinds -/

/-- **A number within limits.** -/
structure Limits.Admit (l : Limits) (n : Number) : Prop where
  /-- It is less than what it must be less than. -/
  below : ∀ limit, l.below = some limit → n.lt limit = true
  /-- It is greater than what it must be greater than. -/
  above : ∀ limit, l.above = some limit → limit.lt n = true
  /-- It is at most the greatest value. -/
  greatest : ∀ limit, l.greatest = some limit → n.le limit = true
  /-- It is at least the least value. -/
  least : ∀ limit, l.least = some limit → limit.le n = true
  /-- It is a multiple of the step. -/
  step : ∀ step, l.step = some step → n.isMultipleOf step = true

/-- **A value meets a kind** and its constraints. What the items of an array are is not looked at. -/
inductive Kind.Suits : Kind → Json → Prop
  /-- A text of the right length and form. -/
  | text {least most : Option Nat} {pattern : Option Pattern} {s : String} :
      (∀ n, least = some n → n ≤ Text.length16 s) → (∀ n, most = some n → Text.length16 s ≤ n) →
      (∀ p, pattern = some p → p.accepts s = true) → Suits (.text least most pattern) (.str s)
  /-- A finite whole number within limits. -/
  | integer {limits : Limits} {n : Number} : n.isInteger = true → limits.Admit n →
      Suits (.numeric .integer limits) (.num n)
  /-- A finite number within limits. -/
  | number {limits : Limits} {n : Number} : n.isFinite = true → limits.Admit n →
      Suits (.numeric .number limits) (.num n)
  /-- A truth value. -/
  | flag (value : Bool) : Suits .flag (.bool value)
  /-- An array. -/
  | array (items : Kind) (values : List Json) : Suits (.array items) (.arr values)
  /-- Anything. -/
  | any (v : Json) : Suits .any v

/-- **What stands inside a value**, with the places that lead to it and the kind that it should be of. -/
inductive Kind.Reaches : Kind → Json → List String → Kind → Json → Prop
  /-- The value itself. -/
  | here (k : Kind) (v : Json) : Reaches k v [] k v
  /-- What stands inside an item of an array. -/
  | item {items k : Kind} {values : List Json} {i : Nat} {v w : Json} {path : List String} :
      values[i]? = some v → Reaches items v path k w → Reaches (.array items) (.arr values) (toString i :: path) k w

/-- **A kind admits a value** when everything inside it meets the kind that it should be of. -/
def Kind.Admits (k : Kind) (v : Json) : Prop := ∀ path k' w, k.Reaches v path k' w → k'.Suits w

/-- A place inside a value where something does not meet the kind that it should be of. -/
def Kind.FailsAt (k : Kind) (v : Json) (path : List String) : Prop := ∃ k' w, k.Reaches v path k' w ∧ ¬ k'.Suits w

namespace Kind

variable {k items : Kind} {v : Json} {path : List String}

theorem admits_iff : k.Admits v ↔ ∀ path, ¬ k.FailsAt v path := by
  simp only [Admits, FailsAt, not_exists, not_and, not_not]

/-- A text has no faults exactly when its length and its form are right. -/
theorem textFaults_eq_nil_iff {least most : Option Nat} {pattern : Option Pattern} {s : String} :
    textFaults least most pattern s = [] ↔ Suits (.text least most pattern) (.str s) := by
  have unfolded : textFaults least most pattern s = [] ↔ (∀ n, least = some n → n ≤ Text.length16 s) ∧
      (∀ n, most = some n → Text.length16 s ≤ n) ∧ ∀ p, pattern = some p → p.accepts s = true := by
    cases least <;> cases most <;> cases pattern <;> simp [textFaults, Option.filter_some]
  rw [unfolded]
  constructor
  · rintro ⟨long, short, form⟩
    exact .text long short form
  · rintro (⟨long, short, form⟩)
    exact ⟨long, short, form⟩

/-- No bound is broken exactly when a number is within limits. -/
theorem filter_bounds_eq_nil_iff {l : Limits} {n : Number} :
    (l.bounds.filter fun b => !b.holds n) = [] ↔ l.Admit n := by
  obtain ⟨below, above, greatest, least, step⟩ := l
  have all : (⟨below, above, greatest, least, step⟩ : Limits).Admit n ↔
      (∀ limit, below = some limit → n.lt limit = true) ∧ (∀ limit, above = some limit → limit.lt n = true) ∧
      (∀ limit, greatest = some limit → n.le limit = true) ∧
      (∀ limit, least = some limit → limit.le n = true) ∧
      ∀ limit, step = some limit → n.isMultipleOf limit = true :=
    ⟨fun h => ⟨h.below, h.above, h.greatest, h.least, h.step⟩, fun h => ⟨h.1, h.2.1, h.2.2.1, h.2.2.2.1, h.2.2.2.2⟩⟩
  rw [all, List.filter_eq_nil_iff]
  simp [Limits.bounds, Bound.holds, or_imp, forall_and]

/-- A number meets a kind of number when it is one and within limits. -/
theorem suits_numeric_iff {kind : NumberKind} {limits : Limits} {n : Number} :
    Suits (.numeric kind limits) (.num n) ↔ isOfKind kind n = true ∧ limits.Admit n := by
  constructor
  · rintro (_ | ⟨whole, within⟩ | ⟨finite, within⟩)
    · exact ⟨whole, within⟩
    · exact ⟨finite, within⟩
  · rintro ⟨ofKind, within⟩
    cases kind with
    | integer => exact .integer ofKind within
    | number => exact .number ofKind within

/-- Outside arrays all problems are with the value itself, and there are some exactly when it does not meet the
kind. -/
theorem problems_of_leaf (leaf : ∀ items values, k = .array items → v ≠ .arr values) (field : String) :
    ∃ faults : List Fault, k.problems field (some v) = faults.map (fun f => ⟨[field], f⟩) ∧
      (faults = [] ↔ k.Suits v) := by
  -- a value of the wrong type has one fault
  have wrong {f : Fault} (apart : ¬ k.Suits v) (only : k.problems field (some v) = [⟨[field], f⟩]) :
      ∃ faults : List Fault, k.problems field (some v) = faults.map (fun f => ⟨[field], f⟩) ∧
        (faults = [] ↔ k.Suits v) := ⟨[f], only, by simp [apart]⟩
  cases k with
  | text least most pattern =>
    cases v with
    | str s => exact ⟨_, rfl, textFaults_eq_nil_iff⟩
    | _ => exact wrong (by rintro ⟨⟩) rfl
  | numeric kind limits =>
    cases v with
    | num n =>
      rw [suits_numeric_iff]
      by_cases ofKind : isOfKind kind n = true
      · refine ⟨(limits.bounds.filter fun b => !b.holds n).map (.outOfBound kind), ?_, ?_⟩
        · rw [problems, if_pos ofKind, List.map_map]
          rfl
        · rw [List.map_eq_nil_iff, filter_bounds_eq_nil_iff, and_iff_right ofKind]
      · exact ⟨[.notNumeric kind], by rw [problems, if_neg ofKind]; rfl, by simp [ofKind]⟩
    | _ => exact wrong (by rintro ⟨⟩) rfl
  | flag =>
    cases v with
    | bool b => exact ⟨[], rfl, by simpa using .flag b⟩
    | _ => exact wrong (by rintro ⟨⟩) rfl
  | array items =>
    cases v with
    | arr values => exact absurd rfl (leaf items values rfl)
    | _ => exact wrong (by rintro ⟨⟩) rfl
  | any => exact ⟨[], by cases v <;> rfl, by simpa using .any v⟩

/-- A place inside a value is that of the value itself or lies inside an item. -/
theorem failsAt_iff : k.FailsAt v path ↔ (path = [] ∧ ¬ k.Suits v) ∨
    ∃ (items : Kind) (values : List Json) (i : Nat) (w : Json) (rest : List String), k = .array items ∧
      v = .arr values ∧ values[i]? = some w ∧ path = toString i :: rest ∧ items.FailsAt w rest := by
  constructor
  · rintro ⟨k', w, reaches, fails⟩
    cases reaches with
    | here => exact .inl ⟨rfl, fails⟩
    | item here inside => exact .inr ⟨_, _, _, _, _, rfl, rfl, here, rfl, _, _, inside, fails⟩
  · rintro (⟨rfl, fails⟩ | ⟨items, values, i, w, rest, rfl, rfl, here, rfl, k', u, inside, fails⟩)
    · exact ⟨_, _, .here _ _, fails⟩
    · exact ⟨_, _, .item here inside, fails⟩

/-- The problems of a value that has no items are with the value itself. -/
theorem mem_paths_of_leaf (leaf : ∀ items values, k = .array items → v ≠ .arr values) (field : String) :
    path ∈ (k.problems field (some v)).map Problem.path ↔ ∃ rest, path = field :: rest ∧ k.FailsAt v rest := by
  obtain ⟨faults, only, fine⟩ := problems_of_leaf leaf field
  have here : path ∈ (k.problems field (some v)).map Problem.path ↔ path = [field] ∧ faults ≠ [] := by
    rw [only, List.map_map, List.mem_map]
    cases faults <;> simp [eq_comm]
  have fails : ∀ rest, k.FailsAt v rest ↔ rest = [] ∧ ¬ k.Suits v := by
    intro rest
    rw [failsAt_iff, or_iff_left]
    rintro ⟨items, values, -, -, -, array, value, -⟩
    exact leaf items values array value
  simp [here, fails, fine]

/-- **The problems of a value** are found where something inside it does not meet its kind. -/
theorem mem_paths_iff (k : Kind) (field : String) (v : Json) (path : List String) :
    path ∈ (k.problems field (some v)).map Problem.path ↔ ∃ rest, path = field :: rest ∧ k.FailsAt v rest := by
  induction k generalizing field v path with
  | array items ih =>
    cases v with
    | arr values =>
      have fails : ∀ rest, (array items).FailsAt (.arr values) rest ↔ ∃ (i : Nat) (w : Json) (rest' : List String),
          values[i]? = some w ∧ rest = toString i :: rest' ∧ items.FailsAt w rest' := by
        intro rest
        rw [failsAt_iff, or_iff_right fun own => own.2 (.array _ _)]
        simp
      -- the problems of an item stand under its place
      have under : path ∈ ((array items).problems field (some (.arr values))).map Problem.path ↔
          ∃ (i : Nat) (w : Json), values[i]? = some w ∧
            ∃ inner ∈ (items.problems (toString i) (some w)).map Problem.path, path = field :: inner := by
        simp only [problems, List.mem_map, List.mem_flatMap, Prod.exists, List.mem_zipIdx_iff_getElem?]
        constructor
        · rintro ⟨_, ⟨w, i, here, p, found, rfl⟩, rfl⟩
          exact ⟨i, w, here, _, ⟨p, found, rfl⟩, rfl⟩
        · rintro ⟨i, w, here, _, ⟨p, found, rfl⟩, rfl⟩
          exact ⟨_, ⟨w, i, here, p, found, rfl⟩, rfl⟩
      rw [under]
      simp only [fails, ih]
      constructor
      · rintro ⟨i, w, here, _, ⟨rest, rfl, inside⟩, rfl⟩
        exact ⟨_, rfl, i, w, rest, here, rfl, inside⟩
      · rintro ⟨_, rfl, i, w, rest, here, rfl, inside⟩
        exact ⟨i, w, here, _, ⟨rest, rfl, inside⟩, rfl⟩
    | _ => exact mem_paths_of_leaf (by simp) field
  | _ => exact mem_paths_of_leaf (by simp) field

/-- Having no value is a problem, unless anything will do. -/
theorem mem_paths_none (typed : k ≠ .any) (field : String) : [field] ∈ (k.problems field none).map Problem.path := by
  cases k with
  | any => exact absurd rfl typed
  | _ => exact List.mem_singleton_self _

/-- Having no value is a problem of the field itself. -/
theorem eq_of_mem_paths_none {field : String} (here : path ∈ (k.problems field none).map Problem.path) :
    path = [field] := by
  cases k with
  | any => simp [problems] at here
  | _ => exact List.mem_singleton.1 here

end Kind

/-! ## Schemas -/

namespace Schema

/-- **All that is asked of a bundle.** -/
structure Accepts (s : Schema) (b : Bundle) : Prop where
  /-- Every required field has a value. -/
  required : ∀ field rule, s.fields.get? field = some rule → rule.optional = false → ∃ v, b.Fills field rule v
  /-- No key is undeclared where these are forbidden. -/
  declared : s.additional = some false → ∀ key, b.Holds key → ∃ rule, s.fields.get? key = some rule
  /-- Every value of a declared field meets its kind. -/
  admitted : ∀ field rule v, s.fields.get? field = some rule → b.Fills field rule v → rule.kind.Admits v
  /-- It is a text, a number or a truth value. -/
  plain : ∀ field rule v, s.fields.get? field = some rule → b.Fills field rule v → ∃ w : Scalar, v = w.toJson

/-- **Where a bundle falls short of a schema.** -/
inductive FailsAt (s : Schema) (b : Bundle) : List String → Prop
  /-- At a required field without a value. -/
  | missing {field : String} {rule : FieldRule} : s.fields.get? field = some rule → rule.optional = false →
      (∀ v, ¬ b.Fills field rule v) → FailsAt s b [field]
  /-- At a key that is not declared, where these are forbidden. -/
  | unexpected {key : String} : s.additional = some false → b.Holds key → s.fields.get? key = none →
      FailsAt s b [key]
  /-- At a value of a declared field, or inside it. -/
  | unfit {field : String} {rule : FieldRule} {v : Json} {path : List String} : s.fields.get? field = some rule →
      b.Fills field rule v → rule.kind.FailsAt v path → FailsAt s b (field :: path)

variable {s : Schema} {b : Bundle} {path : List String}

/-- A bundle is accepted when it falls short of nothing and all its values are plain. -/
theorem accepts_iff : s.Accepts b ↔ (∀ path, ¬ s.FailsAt b path) ∧ ∀ field rule v,
    s.fields.get? field = some rule → b.Fills field rule v → ∃ w : Scalar, v = w.toJson := by
  constructor
  · rintro ⟨required, closed, admitted, plain⟩
    refine ⟨fun path fails => ?_, plain⟩
    cases fails with
    | missing declared needed empty =>
      obtain ⟨v, filled⟩ := required _ _ declared needed
      exact empty v filled
    | unexpected forbidden held undeclared =>
      obtain ⟨rule, declared⟩ := closed forbidden _ held
      simp [undeclared] at declared
    | unfit declared filled fails => exact Kind.admits_iff.1 (admitted _ _ _ declared filled) _ fails
  · rintro ⟨nowhere, plain⟩
    refine ⟨fun field rule declared needed => ?_, fun forbidden key held => ?_,
      fun field rule v declared filled => ?_, plain⟩
    · by_contra empty
      exact nowhere _ (.missing declared needed (not_exists.1 empty))
    · by_contra undeclared
      exact nowhere _ (.unexpected forbidden held (Option.eq_none_iff_forall_ne_some.2 (not_exists.1 undeclared)))
    · exact Kind.admits_iff.2 fun path fails => nowhere _ (.unfit declared filled fails)

end Schema

end ServiceAccess
