import Mathlib.Algebra.GroupWithZero.Nat
import Mathlib.Data.List.Forall2
import Mathlib.Data.List.Induction
import Mathlib.Data.List.Nodup
import Mathlib.Data.List.Perm.Basic
import ServiceAccess.Table

/-! # More laws of tables

What the operations of a `Table` do to its two views: looking a key up, and the list of pairs, which is
followed up to order. `Table.perm_cons_erase` splits one pair off a table, and the other counting laws
come from it.

`Table.Related` holds of two tables that have the same keys in the same order and related values; the
operations keep it. `Table.Renumbered` holds of two tables that have the same under tagged numbers, where
these are counted anew. -/

namespace ServiceAccess.Table

variable {κ ν μ : Type} [DecidableEq κ]

/-- A value stands in the table exactly when some key is looked up to it. -/
theorem mem_values_iff {t : Table κ ν} {v : ν} : v ∈ t.values ↔ ∃ k, t.get? k = some v := by
  simp only [values, List.mem_map, get?_eq_some_iff]
  constructor
  · rintro ⟨⟨k, w⟩, h, rfl⟩
    exact ⟨k, h⟩
  · rintro ⟨k, h⟩
    exact ⟨(k, v), h, rfl⟩

/-- A key is present exactly when looking it up gives a value. -/
theorem mem_keys_iff {t : Table κ ν} {k : κ} : k ∈ t.keys ↔ ∃ v, t.get? k = some v := by
  rw [← not_iff_not, ← get?_eq_none_iff]
  cases h : t.get? k <;> simp

theorem contains_eq_isSome (t : Table κ ν) (k : κ) : t.contains k = (t.get? k).isSome := by
  rw [Bool.eq_iff_iff, contains_iff, mem_keys_iff, Option.isSome_iff_exists]

/-- A table in which no key is found is empty. -/
theorem eq_empty_of_get? {t : Table κ ν} (h : ∀ k, t.get? k = none) : t = ∅ := by
  refine Table.ext (List.eq_nil_iff_forall_not_mem.2 fun e here => ?_)
  have found := get?_eq_some_iff.2 here
  simp [h] at found

/-- A key is looked up to the value just written under it. -/
theorem get?_insert_self (t : Table κ ν) (k : κ) (v : ν) : (t.insert k v).get? k = some v := by simp

@[simp] theorem get?_filter (p : κ → ν → Bool) (t : Table κ ν) (k : κ) :
    (t.filter p).get? k = (t.get? k).filter (p k) := by
  refine Option.ext fun v => ?_
  rw [get?_eq_some_iff, entries_filter, List.mem_filter, ← get?_eq_some_iff,
    Option.filter_eq_some_iff]

@[simp] theorem get?_map (f : κ → ν → μ) (t : Table κ ν) (k : κ) :
    (t.map f).get? k = (t.get? k).map (f k) := by
  refine Option.ext fun w => ?_
  rw [get?_eq_some_iff, Option.map_eq_some_iff]
  simp only [map, List.mem_map, Prod.mk.injEq]
  constructor
  · rintro ⟨⟨k', v⟩, h, rfl, rfl⟩
    exact ⟨v, get?_eq_some_iff.2 h, rfl⟩
  · rintro ⟨v, h, rfl⟩
    exact ⟨(k, v), get?_eq_some_iff.1 h, rfl, rfl⟩

@[simp] theorem get?_filterMap (f : κ → ν → Option μ) (t : Table κ ν) (k : κ) :
    (t.filterMap f).get? k = (t.get? k).bind (f k) := by
  refine Option.ext fun w => ?_
  rw [get?_eq_some_iff, entries_filterMap, List.mem_filterMap, Option.bind_eq_some_iff]
  simp only [Option.map_eq_some_iff, Prod.mk.injEq]
  constructor
  · rintro ⟨⟨k', v⟩, h, w', value, rfl, rfl⟩
    exact ⟨v, get?_eq_some_iff.2 h, value⟩
  · rintro ⟨v, h, value⟩
    exact ⟨(k, v), get?_eq_some_iff.1 h, w, value, rfl, rfl⟩

omit [DecidableEq κ] in
/-- The keys that are kept stay in order. -/
theorem keys_filterMap_sublist (f : κ → ν → Option μ) (t : Table κ ν) : (t.filterMap f).keys.Sublist t.keys := by
  rw [keys, keys, entries_filterMap]
  induction t.entries with
  | nil => exact List.Sublist.slnil
  | cons e l ih =>
    cases held : f e.1 e.2 with
    | none => simpa [held] using ih.cons e.1
    | some w => simpa [held] using ih.cons_cons e.1

/-- Tables with the same pairs, up to order, look every key up to the same value. -/
theorem get?_eq_of_perm {s t : Table κ ν} (h : s.entries.Perm t.entries) (k : κ) :
    s.get? k = t.get? k := by
  refine Option.ext fun v => ?_
  rw [get?_eq_some_iff, get?_eq_some_iff, h.mem_iff]

/-- Erasing an absent key changes nothing. -/
theorem erase_of_absent {t : Table κ ν} {k : κ} (h : t.get? k = none) : t.erase k = t := by
  refine Table.ext (List.filter_eq_self.2 fun e he => ?_)
  have absent : e.1 ≠ k := by
    rintro rfl
    exact get?_eq_none_iff.1 h (List.mem_map.2 ⟨e, he, rfl⟩)
  simpa using absent

/-- A present key takes the new value in place. -/
theorem entries_insert_of_mem {t : Table κ ν} {k : κ} (h : k ∈ t.keys) (v : ν) :
    (t.insert k v).entries = t.entries.map fun e => if e.1 = k then (k, v) else e := by
  rw [insert, dif_pos h]

/-- A fresh key goes to the end. -/
theorem entries_insert_of_not_mem {t : Table κ ν} {k : κ} (h : k ∉ t.keys) (v : ν) :
    (t.insert k v).entries = t.entries ++ [(k, v)] := by
  rw [insert, dif_neg h]

/-- A test that holds of the values of one key only leaves the value of that key. -/
theorem filter_values {t : Table κ ν} {k : κ} {q : ν → Bool}
    (h : ∀ a v, t.get? a = some v → (q v = true ↔ a = k)) : t.values.filter q = (t.get? k).toList := by
  obtain ⟨l, nodup⟩ := t
  simp only [get?_eq_some_iff] at h
  simp only [values, get?]
  induction l with
  | nil => rfl
  | cons e l ih =>
    rw [List.map_cons, List.nodup_cons] at nodup
    have rest := ih nodup.2 fun a v here => h a v (List.mem_cons_of_mem _ here)
    have first := h e.1 e.2 List.mem_cons_self
    rw [List.map_cons, List.filter_cons, List.find?_cons]
    by_cases here : e.1 = k
    · -- the key does not come again
      have none : (l.map Prod.snd).filter q = [] := by
        refine List.filter_eq_nil_iff.2 fun v value => ?_
        obtain ⟨⟨b, v⟩, there, rfl⟩ := List.mem_map.1 value
        rw [h b v (List.mem_cons_of_mem _ there)]
        rintro rfl
        exact nodup.1 (here ▸ List.mem_map_of_mem there)
      simp [first.2 here, here, none]
    · rw [if_neg fun now => here (first.1 now), rest]
      simp [here]

/-- Pairs with distinct keys are listed as they were written. -/
theorem entries_ofList {l : List (κ × ν)} (distinct : (l.map Prod.fst).Nodup) :
    (ofList l).entries = l := by
  induction l using List.reverseRecOn with
  | nil => rfl
  | append_singleton l e ih =>
    rw [List.map_append, List.nodup_append] at distinct
    have before := ih distinct.1
    -- the last key is none of the others, so its pair goes to the end
    have fresh : e.1 ∉ (ofList l).keys := by
      rw [keys, before]
      exact fun here => distinct.2.2 _ here e.1 (by simp) rfl
    rw [ofList, List.foldl_append, ← ofList, List.foldl_cons, List.foldl_nil,
      entries_insert_of_not_mem fresh, before]

/-- Writing a key before erasing it is of no effect. -/
@[simp] theorem erase_insert (t : Table κ ν) (k : κ) (v : ν) : (t.insert k v).erase k = t.erase k := by
  refine Table.ext ?_
  simp only [erase, entries_filter]
  by_cases h : k ∈ t.keys
  · -- the pair that is written in place goes, as the one before it would
    rw [entries_insert_of_mem h]
    generalize t.entries = l
    induction l with
    | nil => rfl
    | cons e l ih => by_cases he : e.1 = k <;> simpa [he] using ih
  · simp [entries_insert_of_not_mem h]

/-- Of two values written under one key, the last one stays. -/
@[simp] theorem insert_insert (t : Table κ ν) (k : κ) (v w : ν) :
    (t.insert k v).insert k w = t.insert k w := by
  refine Table.ext ?_
  have present : k ∈ (t.insert k v).keys := by simp
  rw [entries_insert_of_mem present]
  by_cases h : k ∈ t.keys
  · -- both values are written in place
    rw [entries_insert_of_mem h, entries_insert_of_mem h, List.map_map]
    refine List.map_congr_left fun e _ => ?_
    by_cases he : e.1 = k <;> simp [he]
  · -- the first value goes to the end, and the second one in its place
    have same : ∀ e ∈ t.entries, (if e.1 = k then (k, w) else e) = e := by
      intro e he
      rw [if_neg]
      rintro rfl
      exact h (List.mem_map.2 ⟨e, he, rfl⟩)
    rw [entries_insert_of_not_mem h, entries_insert_of_not_mem h, List.map_append,
      List.map_congr_left same, List.map_id']
    simp

/-! ## Splitting a pair off -/

/-- **The pair of a key, and the rest.** A table with a value under a key holds that pair and the pairs
that are left when the key is erased. -/
theorem perm_cons_erase {t : Table κ ν} {k : κ} {v : ν} (h : t.get? k = some v) :
    t.entries.Perm ((k, v) :: (t.erase k).entries) := by
  obtain ⟨l, nodup⟩ := t
  rw [get?_eq_some_iff] at h
  simp only [erase, entries_filter] at h ⊢
  induction l with
  | nil => simp at h
  | cons e l ih =>
    simp only [List.map_cons, List.nodup_cons] at nodup
    rcases List.mem_cons.1 h with rfl | h
    · -- the pair stands in front, and the key does not come again
      have rest : l.filter (fun e => !decide (e.1 = k)) = l := by
        refine List.filter_eq_self.2 fun e he => ?_
        have absent : e.1 ≠ k := fun hk => nodup.1 (List.mem_map.2 ⟨e, he, hk⟩)
        simpa using absent
      simp [rest]
    · have absent : e.1 ≠ k := fun hk => nodup.1 (List.mem_map.2 ⟨(k, v), h, hk.symm⟩)
      simp only [List.filter_cons, absent, decide_false, Bool.not_false, if_true]
      exact ((ih nodup.2 h).cons e).trans (List.Perm.swap (k, v) e _)

/-- A table with one more pair holds that pair and the others. -/
theorem entries_insert_perm (t : Table κ ν) (k : κ) (v : ν) :
    (t.insert k v).entries.Perm ((k, v) :: (t.erase k).entries) := by
  have h : (t.insert k v).get? k = some v := by simp
  simpa using perm_cons_erase h

/-- A fresh key adds its value to the values. -/
theorem values_insert_perm {t : Table κ ν} {k : κ} (h : t.get? k = none) (v : ν) :
    (t.insert k v).values.Perm (v :: t.values) := by
  have split := (entries_insert_perm t k v).map Prod.snd
  rwa [erase_of_absent h] at split

/-- Erasing a key takes its value out of the values. -/
theorem values_erase_perm {t : Table κ ν} {k : κ} {v : ν} (h : t.get? k = some v) :
    t.values.Perm (v :: (t.erase k).values) :=
  (perm_cons_erase h).map Prod.snd

/-! ## Totals -/

/-- The total of a measure over all values. -/
def total (f : ν → Nat) (t : Table κ ν) : Nat := (t.values.map f).sum

/-- A written value counts once, and all other ones as before. -/
theorem total_insert (f : ν → Nat) (t : Table κ ν) (k : κ) (v : ν) :
    (t.insert k v).total f = f v + (t.erase k).total f :=
  (((entries_insert_perm t k v).map Prod.snd).map f).sum_nat

/-- An erased value counts no longer. -/
theorem total_erase (f : ν → Nat) {t : Table κ ν} {k : κ} {v : ν} (h : t.get? k = some v) :
    t.total f = f v + (t.erase k).total f :=
  ((values_erase_perm h).map f).sum_nat

/-- A value that is written over another one counts in its stead. -/
theorem total_replace (f : ν → Nat) {t : Table κ ν} {k : κ} {v : ν} (h : t.get? k = some v) (w : ν) :
    (t.insert k w).total f + f v = t.total f + f w := by
  rw [total_insert, total_erase f h]
  omega

/-- Erasing a key adds nothing to a total. -/
theorem total_erase_le (f : ν → Nat) (t : Table κ ν) (k : κ) : (t.erase k).total f ≤ t.total f := by
  cases h : t.get? k with
  | none => exact Nat.le_of_eq (by rw [erase_of_absent h])
  | some v =>
    rw [total_erase f h]
    exact Nat.le_add_left ..

omit [DecidableEq κ] in
/-- A test divides a total. -/
theorem total_filter (f : ν → Nat) (t : Table κ ν) (p : κ → ν → Bool) :
    (t.filter fun k v => !p k v).total f + (t.filter p).total f = t.total f := by
  -- both parts together are the table in another order
  simp only [total, values, entries_filter, ← List.sum_append, ← List.map_append]
  refine ((List.Perm.map _ (List.perm_append_comm.trans ?_)).map f).sum_nat
  exact List.filter_append_perm (fun e : κ × ν => p e.1 e.2) t.entries

/-! ## Tables side by side -/

/-- **Tables with the same keys in the same order and related values.** -/
def Related (r : ν → μ → Prop) (s : Table κ ν) (t : Table κ μ) : Prop :=
  List.Forall₂ (fun e e' => e.1 = e'.1 ∧ r e.2 e'.2) s.entries t.entries

namespace Related

variable {r : ν → μ → Prop} {s : Table κ ν} {t : Table κ μ}

omit [DecidableEq κ] in
theorem empty : Related r (∅ : Table κ ν) (∅ : Table κ μ) := .nil

omit [DecidableEq κ] in
theorem keys (h : Related r s t) : s.keys = t.keys := by
  rw [Related] at h
  rw [Table.keys, Table.keys]
  generalize s.entries = l at h ⊢
  generalize t.entries = m at h ⊢
  induction h with
  | nil => rfl
  | cons first _ ih => rw [List.map_cons, List.map_cons, first.1, ih]

omit [DecidableEq κ] in
theorem values (h : Related r s t) : List.Forall₂ r s.values t.values :=
  List.forall₂_map_left_iff.2 (List.forall₂_map_right_iff.2 (h.imp fun _ _ same => same.2))

/-- A key is looked up to related values, or to none in both. -/
theorem get? (h : Related r s t) (k : κ) : Option.Rel r (s.get? k) (t.get? k) := by
  rw [Related] at h
  rw [Table.get?, Table.get?]
  generalize s.entries = l at h ⊢
  generalize t.entries = m at h ⊢
  induction h with
  | nil => exact .none
  | @cons e e' l l' first _ ih =>
    rw [List.find?_cons, List.find?_cons, ← first.1]
    cases decide (e.1 = k) with
    | true => exact .some first.2
    | false => exact ih

/-- A key is in neither of the tables, or in both of them with related values. -/
theorem get?_cases (h : Related r s t) (k : κ) : (s.get? k = none ∧ t.get? k = none) ∨
    ∃ v w, s.get? k = some v ∧ t.get? k = some w ∧ r v w := by
  cases left : s.get? k <;> cases right : t.get? k <;> have same := h.get? k <;>
    rw [left, right] at same
  · exact .inl ⟨rfl, rfl⟩
  · cases same
  · cases same
  · cases same with
    | some related => exact .inr ⟨_, _, rfl, rfl, related⟩

omit [DecidableEq κ] in
/-- Tests that do not tell related values apart keep the same keys. -/
theorem filter (h : Related r s t) {p : κ → ν → Bool} {q : κ → μ → Bool}
    (same : ∀ k v w, r v w → p k v = q k w) : Related r (s.filter p) (t.filter q) := by
  rw [Related] at h
  rw [Related, entries_filter, entries_filter]
  generalize s.entries = l at h ⊢
  generalize t.entries = m at h ⊢
  induction h with
  | nil => exact .nil
  | @cons e e' l l' first _ ih =>
    have test : p e.1 e.2 = q e'.1 e'.2 := first.1 ▸ same _ _ _ first.2
    rw [List.filter_cons, List.filter_cons, ← test]
    cases p e.1 e.2 with
    | true => exact .cons first ih
    | false => exact ih

theorem erase (h : Related r s t) (k : κ) : Related r (s.erase k) (t.erase k) :=
  h.filter fun _ _ _ _ => rfl

/-- Related values are written under a key. -/
theorem insert (h : Related r s t) (k : κ) {v : ν} {w : μ} (related : r v w) :
    Related r (s.insert k v) (t.insert k w) := by
  have keys := h.keys
  by_cases present : k ∈ s.keys
  · rw [Related, entries_insert_of_mem present, entries_insert_of_mem (keys ▸ present)]
    refine List.forall₂_map_left_iff.2 (List.forall₂_map_right_iff.2 (h.imp fun e e' first => ?_))
    rw [← first.1]
    by_cases here : e.1 = k
    · rw [if_pos here, if_pos here]
      exact ⟨rfl, related⟩
    · rw [if_neg here, if_neg here]
      exact first
  · rw [Related, entries_insert_of_not_mem present, entries_insert_of_not_mem (keys ▸ present)]
    exact List.rel_append h (.cons ⟨rfl, related⟩ .nil)

end Related

/-! ## Renumbered tables -/

/-- **A table that has what another one has under tagged numbers**, under new numbers, by which the tagged
ones are told apart. -/
structure Renumbered (tags : Nat → Bool) (no : Nat → Nat) (f : ν → μ) (t : Table Nat ν)
    (u : Table Nat μ) : Prop where
  /-- The new numbers tell the tagged ones apart. -/
  inj : ∀ {m n}, tags m = true → tags n = true → no m = no n → m = n
  /-- What is there under a tagged number is there under its new number. -/
  get? : ∀ n, tags n = true → u.get? (no n) = (t.get? n).map f

namespace Renumbered

variable {tags : Nat → Bool} {no : Nat → Nat} {f : ν → μ} {t : Table Nat ν} {u : Table Nat μ}
variable (h : Renumbered tags no f t u) {n : Nat}
include h

/-- A value is written under a tagged number. -/
theorem insert (here : tags n = true) (v : ν) :
    Renumbered tags no f (t.insert n v) (u.insert (no n) (f v)) := by
  refine ⟨h.inj, fun m hm => ?_⟩
  rw [get?_insert, get?_insert]
  by_cases same : m = n
  · rw [if_pos same, if_pos (congrArg no same), Option.map_some]
  · rw [if_neg same, if_neg fun eq => same (h.inj hm here eq), h.get? m hm]

/-- A tagged number is erased. -/
theorem erase (here : tags n = true) : Renumbered tags no f (t.erase n) (u.erase (no n)) := by
  refine ⟨h.inj, fun m hm => ?_⟩
  rw [get?_erase, get?_erase]
  by_cases same : m = n
  · rw [if_pos same, if_pos (congrArg no same), Option.map_none]
  · rw [if_neg same, if_neg fun eq => same (h.inj hm here eq), h.get? m hm]

/-- What is written under another number does not matter. -/
theorem insert_other (other : tags n = false) (v : ν) : Renumbered tags no f (t.insert n v) u := by
  refine ⟨h.inj, fun m hm => ?_⟩
  rw [get?_insert, if_neg, h.get? m hm]
  rintro rfl
  simp [other] at hm

/-- What is erased under another number does not matter. -/
theorem erase_other (other : tags n = false) : Renumbered tags no f (t.erase n) u := by
  refine ⟨h.inj, fun m hm => ?_⟩
  rw [get?_erase, if_neg, h.get? m hm]
  rintro rfl
  simp [other] at hm

end Renumbered

end ServiceAccess.Table
