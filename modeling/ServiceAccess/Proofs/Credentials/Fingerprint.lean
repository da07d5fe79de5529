import ServiceAccess.Credentials.Basic
import ServiceAccess.Proofs.Json.Reading

/-! # What a fingerprint tells

The fingerprint of credentials is the hash of a text. The text determines the method and the values in
the clear, as long as no value is an infinity, which it shows as null.

* **`Credentials.Agrees`**: the same method, and the same value in the clear under every name.
* **`Credentials.agrees_of_text`**: finite credentials with the same text agree.
* **`Credentials.text_congr`**: the text shows of the values only how they are written. -/

namespace ServiceAccess

/-! ## Finite values -/

namespace Scalar

/-- A value that is no infinity. -/
def Finite : Scalar → Prop
  | .number n => n.isFinite = true
  | _ => True

/-- A finite value is written as plain JSON. -/
theorem plain_toJson {v : Scalar} : v.toJson.Plain ↔ v.Finite := by cases v <;> rfl

theorem toJson_injective : Function.Injective toJson := by
  intro v w same
  have back := congrArg ofJson? same
  rwa [ofJson?_toJson, ofJson?_toJson, Option.some.injEq] at back

end Scalar

namespace Json

/-- Items are plain when each of them is. -/
theorem plainItems_iff {items : List Json} : PlainItems items ↔ ∀ v ∈ items, v.Plain := by
  induction items with
  | nil => simp [PlainItems]
  | cons v items ih => rw [PlainItems, ih, List.forall_mem_cons]

/-- An item that is not the last one is followed by a comma. -/
theorem renderItems_cons_cons (v w : Json) (items : List Json) :
    renderItems (v :: w :: items) = v.render ++ "," ++ renderItems (w :: items) := by
  rw [renderItems]
  simp

/-- The text of an array shows of its items only how they are written. -/
theorem renderItems_congr {items items' : List Json} (same : items.map render = items'.map render) :
    renderItems items = renderItems items' := by
  induction items generalizing items' with
  | nil => rw [List.map_eq_nil_iff.1 same.symm]
  | cons v items ih =>
    obtain ⟨w, items', rfl, head, tail⟩ := List.map_eq_cons_iff.1 same.symm
    have rest := ih tail.symm
    cases items with
    | nil =>
      obtain rfl := List.map_eq_nil_iff.1 tail
      rw [renderItems, renderItems, head]
    | cons v' items =>
      obtain ⟨w', items', rfl, -⟩ := List.map_eq_cons_iff.1 tail
      rw [renderItems_cons_cons, renderItems_cons_cons, head, rest]

end Json

namespace Credentials

/-- No value is an infinity. -/
def Finite (c : Credentials) : Prop := ∀ field v, c.revealed.get? field = some v → v.Finite

/-- **The same method, and the same value in the clear under every name.** -/
def Agrees (a b : Credentials) : Prop :=
  a.method = b.method ∧ ∀ field, a.revealed.get? field = b.revealed.get? field

/-! ## The hashed text -/

/-- The values in the clear, in the order in which they are hashed. -/
def sorted (c : Credentials) : List (String × Scalar) :=
  c.revealed.entries.mergeSort fun a b => Text.sortsBefore a.1 b.1

/-- The JSON form of a named value. -/
def pair (e : String × Scalar) : Json := .arr [.str e.1, e.2.toJson]

theorem pair_injective : Function.Injective pair := by
  rintro ⟨field, v⟩ ⟨field', v'⟩ same
  simp only [pair, Json.arr.injEq, List.cons.injEq, Json.str.injEq, and_true] at same
  obtain ⟨rfl, value⟩ := same
  rw [Scalar.toJson_injective value]

/-- The hashed text is that of the method and the named values. -/
theorem fingerprintText_eq (c : Credentials) :
    c.fingerprintText = (Json.arr [.str c.method, .arr (c.sorted.map pair)]).render := rfl

/-- Sorting keeps the values. -/
theorem sorted_perm (c : Credentials) : c.sorted.Perm c.revealed.entries := List.mergeSort_perm ..

/-- Two values are hashed in the order of their names. -/
theorem sorted_pair {c : Credentials} {field field' : String} {v w : Scalar}
    (values : c.revealed.entries = [(field, v), (field', w)]) :
    c.sorted = if Text.sortsBefore field field' then [(field, v), (field', w)]
      else [(field', w), (field, v)] := by
  rw [sorted, values, List.mergeSort]
  by_cases order : Text.sortsBefore field field' <;> simp [order]

/-- What is hashed of finite credentials is plain JSON. -/
theorem Finite.plain {c : Credentials} (finite : c.Finite) :
    (Json.arr [.str c.method, .arr (c.sorted.map pair)]).Plain := by
  have values : Json.PlainItems (c.sorted.map pair) := by
    rw [Json.plainItems_iff, List.forall_mem_map]
    rintro ⟨field, v⟩ here
    have held : (field, v) ∈ c.revealed.entries := c.sorted_perm.mem_iff.1 here
    exact ⟨trivial, Scalar.plain_toJson.2 (finite field v (Table.get?_eq_some_iff.2 held)), trivial⟩
  exact ⟨trivial, values, trivial⟩

/-- **Finite credentials with the same text agree.** -/
theorem agrees_of_text {a b : Credentials} (finite : a.Finite) (finite' : b.Finite)
    (same : a.fingerprintText = b.fingerprintText) : a.Agrees b := by
  rw [fingerprintText_eq, fingerprintText_eq] at same
  have parts := Json.render_inj finite.plain finite'.plain same
  simp only [Json.arr.injEq, List.cons.injEq, Json.str.injEq, and_true] at parts
  obtain ⟨method, values⟩ := parts
  -- the same pairs, and so the same values under every name, in any order
  have sorted : a.sorted = b.sorted := List.map_injective_iff.2 pair_injective values
  have perm : a.revealed.entries.Perm b.revealed.entries :=
    a.sorted_perm.symm.trans (sorted ▸ b.sorted_perm)
  exact ⟨method, fun field => Table.get?_eq_of_perm perm field⟩

/-- **The text shows of the values only how they are written.** -/
theorem text_congr {a b : Credentials} (method : a.method = b.method)
    (written : a.revealed.entries.map (fun e => (e.1, e.2.toJson.render))
      = b.revealed.entries.map fun e => (e.1, e.2.toJson.render)) :
    a.fingerprintText = b.fingerprintText := by
  -- sorting looks at the names only
  have sorted : ∀ c : Credentials, c.sorted.map (fun e => (e.1, e.2.toJson.render))
      = (c.revealed.entries.map fun e => (e.1, e.2.toJson.render)).mergeSort
        fun p q => Text.sortsBefore p.1 q.1 := fun c =>
    List.map_mergeSort fun _ _ _ _ => rfl
  have same : a.sorted.map (fun e => (e.1, e.2.toJson.render))
      = b.sorted.map fun e => (e.1, e.2.toJson.render) := by rw [sorted, sorted, written]
  have pairs : (a.sorted.map pair).map Json.render = (b.sorted.map pair).map Json.render := by
    have shown : ∀ e, (pair e).render = "[" ++ (Text.quote e.1 ++ "," ++ e.2.toJson.render) ++ "]" := by
      intro e
      rw [pair, Json.render, Json.renderItems_cons_cons, Json.renderItems, Json.render]
    have through := congrArg (List.map fun p => "[" ++ (Text.quote p.1 ++ "," ++ p.2) ++ "]") same
    simpa only [List.map_map, Function.comp_def, shown] using through
  rw [fingerprintText_eq, fingerprintText_eq, Json.render, Json.render, method]
  rw [Json.renderItems_cons_cons, Json.renderItems_cons_cons, Json.renderItems, Json.renderItems,
    Json.render, Json.render, Json.render, Json.renderItems_congr pairs]

end Credentials

end ServiceAccess
