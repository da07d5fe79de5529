/-! # Tables in order of arrival

A `Table κ ν` is a finite map that remembers the order in which its keys first arrived. Writing a key
that is already present replaces its value and keeps its place; erasing a key and writing it again
puts it last. Answers that list keys show this order.

* `Table.get?` is the view through which the operations are specified: `get?_insert`, `get?_erase`.
* `Table.keys` is the view of the order: `keys_insert`, `keys_erase`, `keys_filter`. -/

namespace ServiceAccess

/-- A finite map with distinct keys, listed in order of arrival. -/
structure Table (κ ν : Type) where
  /-- The pairs, oldest key first. -/
  entries : List (κ × ν)
  /-- No key occurs twice. -/
  nodup : (entries.map Prod.fst).Nodup

namespace Table

variable {κ ν μ : Type}

/-- The table without entries. -/
def empty : Table κ ν := ⟨[], List.nodup_nil⟩

instance : EmptyCollection (Table κ ν) := ⟨empty⟩

instance : Inhabited (Table κ ν) := ⟨empty⟩

/-- The keys, in order of arrival. -/
def keys (t : Table κ ν) : List κ := t.entries.map Prod.fst

/-- The values, in the order of their keys. -/
def values (t : Table κ ν) : List ν := t.entries.map Prod.snd

/-- The number of entries. -/
def size (t : Table κ ν) : Nat := t.entries.length

@[simp] theorem entries_empty : (∅ : Table κ ν).entries = [] := rfl

@[simp] theorem keys_empty : (∅ : Table κ ν).keys = [] := rfl

@[simp] theorem length_keys (t : Table κ ν) : t.keys.length = t.size := by simp [keys, size]

theorem nodup_keys (t : Table κ ν) : t.keys.Nodup := t.nodup

@[ext] theorem ext {s t : Table κ ν} (h : s.entries = t.entries) : s = t := by
  cases s; cases t; cases h; rfl

/-- Keep the entries that satisfy a test. -/
def filter (p : κ → ν → Bool) (t : Table κ ν) : Table κ ν :=
  ⟨t.entries.filter fun e => p e.1 e.2, t.nodup.sublist (List.filter_sublist.map _)⟩

@[simp] theorem entries_filter (p : κ → ν → Bool) (t : Table κ ν) :
    (t.filter p).entries = t.entries.filter fun e => p e.1 e.2 := rfl

/-- Apply a function to every value. -/
def map (f : κ → ν → μ) (t : Table κ ν) : Table κ μ :=
  ⟨t.entries.map fun e => (e.1, f e.1 e.2), by
    simpa [List.map_map, Function.comp_def] using t.nodup⟩

@[simp] theorem keys_map (f : κ → ν → μ) (t : Table κ ν) : (t.map f).keys = t.keys := by
  simp [map, keys, List.map_map, Function.comp_def]

/-- Keep the entries that a function gives a value, with that value. -/
def filterMap (f : κ → ν → Option μ) (t : Table κ ν) : Table κ μ :=
  ⟨t.entries.filterMap fun e => (f e.1 e.2).map (e.1, ·), by
    have sub : ∀ l : List (κ × ν), List.Sublist
        ((l.filterMap fun e => (f e.1 e.2).map (e.1, ·)).map Prod.fst) (l.map Prod.fst) := by
      intro l
      induction l with
      | nil => exact List.Sublist.slnil
      | cons e l ih =>
        cases h : f e.1 e.2 with
        | none => simpa [List.filterMap_cons, h] using ih.cons e.1
        | some v => simpa [List.filterMap_cons, h] using ih.cons_cons e.1
    exact t.nodup.sublist (sub t.entries)⟩

@[simp] theorem entries_filterMap (f : κ → ν → Option μ) (t : Table κ ν) :
    (t.filterMap f).entries = t.entries.filterMap fun e => (f e.1 e.2).map (e.1, ·) := rfl

variable [DecidableEq κ]

/-- The value stored under a key. -/
def get? (t : Table κ ν) (k : κ) : Option ν := (t.entries.find? fun e => e.1 = k).map Prod.snd

/-- Whether a key is present. -/
def contains (t : Table κ ν) (k : κ) : Bool := t.keys.contains k

@[simp] theorem contains_iff {t : Table κ ν} {k : κ} : t.contains k = true ↔ k ∈ t.keys := by
  simp [contains]

/-- Write a value under a key: in place when the key is present, last otherwise. -/
def insert (t : Table κ ν) (k : κ) (v : ν) : Table κ ν :=
  if h : k ∈ t.keys then
    ⟨t.entries.map fun e => if e.1 = k then (k, v) else e, by
      have : (t.entries.map fun e => if e.1 = k then (k, v) else e).map Prod.fst = t.keys := by
        simp only [List.map_map, keys]
        refine List.map_congr_left fun e _ => ?_
        by_cases he : e.1 = k <;> simp [he]
      rw [this]; exact t.nodup⟩
  else
    ⟨t.entries ++ [(k, v)], by
      rw [List.map_append, List.nodup_append]
      refine ⟨t.nodup, by simp, ?_⟩
      intro a ha b hb hab
      simp only [List.map_cons, List.map_nil, List.mem_singleton] at hb
      subst hb; subst hab
      exact h ha⟩

/-- Remove a key and its value. -/
def erase (t : Table κ ν) (k : κ) : Table κ ν := t.filter fun a _ => !decide (a = k)

/-- The table that results from writing pairs one after another: a repeated key keeps its first place
and takes the last value. -/
def ofList (l : List (κ × ν)) : Table κ ν := l.foldl (fun t e => t.insert e.1 e.2) ∅

theorem keys_insert (t : Table κ ν) (k : κ) (v : ν) :
    (t.insert k v).keys = if k ∈ t.keys then t.keys else t.keys ++ [k] := by
  unfold insert
  split
  · rename_i h
    simp only [keys, List.map_map]
    refine List.map_congr_left fun e _ => ?_
    by_cases he : e.1 = k <;> simp [he]
  · simp [keys]

@[simp] theorem mem_keys_insert {t : Table κ ν} {k a : κ} {v : ν} :
    a ∈ (t.insert k v).keys ↔ a = k ∨ a ∈ t.keys := by
  rw [keys_insert]
  split
  · rename_i h
    constructor
    · exact Or.inr
    · rintro (rfl | h')
      · exact h
      · exact h'
  · simp [or_comm]

@[simp] theorem keys_erase (t : Table κ ν) (k : κ) :
    (t.erase k).keys = t.keys.filter fun a => !decide (a = k) := by
  simp [erase, keys, List.filter_map, Function.comp_def]

@[simp] theorem mem_keys_erase {t : Table κ ν} {k a : κ} :
    a ∈ (t.erase k).keys ↔ a ∈ t.keys ∧ a ≠ k := by simp

@[simp] theorem get?_empty (k : κ) : (∅ : Table κ ν).get? k = none := rfl

theorem get?_eq_none_iff {t : Table κ ν} {k : κ} : t.get? k = none ↔ k ∉ t.keys := by
  simp only [get?, Option.map_eq_none_iff, List.find?_eq_none, keys, List.mem_map, not_exists,
    not_and, decide_eq_true_eq]

/-- A pair stands in the table exactly when looking its key up gives its value. -/
theorem get?_eq_some_iff {t : Table κ ν} {k : κ} {v : ν} :
    t.get? k = some v ↔ (k, v) ∈ t.entries := by
  obtain ⟨l, hl⟩ := t
  simp only [get?]
  induction l with
  | nil => simp
  | cons e l ih =>
    simp only [List.map_cons, List.nodup_cons] at hl
    by_cases he : e.1 = k
    · subst he
      simp only [List.find?_cons, decide_true, Option.map_some, Option.some.injEq, List.mem_cons]
      constructor
      · rintro rfl; exact Or.inl rfl
      · rintro (h | h)
        · rw [← h]
        · exact absurd (List.mem_map.2 ⟨_, h, rfl⟩) hl.1
    · simp only [List.find?_cons, he, decide_false, List.mem_cons]
      rw [ih hl.2]
      constructor
      · exact Or.inr
      · rintro (h | h)
        · exact absurd (by rw [← h]) he
        · exact h

/-- The pairs after writing: the one that is written, and those under other keys. -/
theorem mem_entries_insert {t : Table κ ν} {k a : κ} {v w : ν} :
    (a, w) ∈ (t.insert k v).entries ↔ if a = k then v = w else (a, w) ∈ t.entries := by
  unfold insert
  split
  · next present =>
    -- the pair under the key is replaced in its place
    simp only [List.mem_map]
    split
    · next same =>
      subst same
      constructor
      · rintro ⟨e, -, written⟩
        split at written
        · exact (Prod.mk.inj written).2
        · next other => exact absurd (congrArg Prod.fst written) other
      · rintro rfl
        obtain ⟨e, here, name⟩ := List.mem_map.1 present
        exact ⟨e, here, if_pos name⟩
    · next other =>
      constructor
      · rintro ⟨e, here, written⟩
        split at written
        · exact absurd (Prod.mk.inj written).1.symm other
        · exact written ▸ here
      · exact fun here => ⟨(a, w), here, if_neg other⟩
  · next absent =>
    rw [List.mem_append, List.mem_singleton, Prod.mk.injEq]
    split
    · next same =>
      subst same
      constructor
      · rintro (here | ⟨-, rfl⟩)
        · exact absurd (List.mem_map.2 ⟨_, here, rfl⟩) absent
        · rfl
      · rintro rfl
        exact .inr ⟨rfl, rfl⟩
    · next other => simp [other]

@[simp] theorem get?_insert (t : Table κ ν) (k a : κ) (v : ν) :
    (t.insert k v).get? a = if a = k then some v else t.get? a := by
  apply Option.ext
  intro w
  rw [get?_eq_some_iff, mem_entries_insert]
  split
  · exact Option.some_inj.symm
  · exact get?_eq_some_iff.symm

@[simp] theorem get?_erase (t : Table κ ν) (k a : κ) :
    (t.erase k).get? a = if a = k then none else t.get? a := by
  by_cases ha : a = k
  · subst ha
    simp [get?_eq_none_iff]
  · simp only [ha, if_false]
    apply Option.ext
    intro v
    simp only [get?_eq_some_iff, erase, entries_filter, List.mem_filter]
    simp [ha]

end Table

end ServiceAccess
