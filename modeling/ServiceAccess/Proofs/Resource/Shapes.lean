import ServiceAccess.Proofs.Text.Regex
import ServiceAccess.Resource.Basic

/-! # Shapes of resource IDs

A resolver tries its shapes in order. Where no two of them match the same text, the order makes no difference: an ID is
what the only shape that matches it makes of it.

* **`Resolver.matching`**: the shapes that match a text.
* **`Resolver.Exclusive`**: no two shapes match the same text. -/

namespace ServiceAccess

/-- **A shape with a pattern recognises what the pattern divides**, where it divides every text in one way at most. -/
theorem Shape.recognise_ofPattern_iff {name format : String} {pattern : List Regex.Part}
    {decompose : Regex.Match → Recognition} {cs : List Char} {result : Except Failure Recognition}
    (only : ∀ groups groups', Regex.Divides pattern cs groups → Regex.Divides pattern cs groups' → groups = groups') :
    (Shape.ofPattern name format pattern decompose).recognise cs = some result ↔
      ∃ groups, Regex.Divides pattern cs groups ∧
        result = .ok (decompose ⟨String.ofList cs, groups.map String.ofList⟩) := by
  rw [Shape.ofPattern, Option.map_eq_some_iff]
  constructor
  · rintro ⟨found, first, rfl⟩
    obtain ⟨groups, division, rfl⟩ := (Regex.exec?_eq_some_iff only).1 first
    exact ⟨groups, division, rfl⟩
  · rintro ⟨groups, division, rfl⟩
    exact ⟨_, (Regex.exec?_eq_some_iff only).2 ⟨groups, division, rfl⟩, rfl⟩

@[simp] theorem Shape.name_ofPattern {name format : String} {pattern : List Regex.Part}
    {decompose : Regex.Match → Recognition} : (Shape.ofPattern name format pattern decompose).name = name := rfl

/-- A shape with a pattern refuses nothing that it recognises. -/
theorem Shape.recognise_ofPattern_ne_error {name format : String} {pattern : List Regex.Part}
    {decompose : Regex.Match → Recognition} (cs : List Char) (failure : Failure) :
    (Shape.ofPattern name format pattern decompose).recognise cs ≠ some (.error failure) := by
  simp [Shape.ofPattern]

namespace Resolver

variable {r : Resolver} {raw : String} {id : ResourceId}

/-- An ID is accepted when the first shape that recognises it does not refuse it. -/
theorem parse_eq_ok_iff : r.parse raw = .ok id ↔ ∃ found : Recognition,
    r.shapes.findSome? (fun s => s.recognise raw.toList) = some (.ok found) ∧
      id = ⟨raw, found.canonicalId, found.fields⟩ := by
  rw [parse]
  split
  · next found first => simp [first, eq_comm]
  · next first => simp [first]
  · next none => simp [none]

/-! ## Shapes that exclude each other -/

/-- **The shapes that match a raw ID**, by their names. -/
def matching (r : Resolver) (raw : String) : List String :=
  (r.shapes.filter fun s => (s.recognise raw.toList).isSome).map Shape.name

/-- **No two shapes match the same text.** -/
def Exclusive (r : Resolver) : Prop :=
  r.shapes.Pairwise fun s s' => ∀ cs, s.recognise cs = none ∨ s'.recognise cs = none

/-- What matches is the only one, and the first one. -/
theorem Exclusive.only (exclusive : r.Exclusive) {s : Shape} (among : s ∈ r.shapes) {cs : List Char}
    {result : Except Failure Recognition} (recognised : s.recognise cs = some result) :
    r.shapes.filter (fun s => (s.recognise cs).isSome) = [s] ∧
      r.shapes.findSome? (fun s => s.recognise cs) = some result := by
  unfold Exclusive at exclusive
  generalize r.shapes = shapes at exclusive among ⊢
  induction exclusive with
  | nil => cases among
  | @cons first later apart _ ih =>
    rcases List.mem_cons.1 among with rfl | among
    · have others : later.filter (fun s => (s.recognise cs).isSome) = [] := by
        refine List.filter_eq_nil_iff.2 fun s' here => ?_
        rcases apart s' here cs with none | none
        · cases none.symm.trans recognised
        · simp [none]
      constructor
      · rw [List.filter_cons_of_pos (by simp [recognised]), others]
      · rw [List.findSome?_cons, recognised]
    · have none : first.recognise cs = none := by
        rcases apart s among cs with none | none
        · exact none
        · cases none.symm.trans recognised
      obtain ⟨alone, found⟩ := ih among
      constructor
      · rw [List.filter_cons_of_neg (by simp [none]), alone]
      · rw [List.findSome?_cons, none, found]

/-- Where shapes exclude each other, an ID is accepted when one of them recognises it, whichever it is. -/
theorem Exclusive.parse_eq_ok_iff (exclusive : r.Exclusive) : r.parse raw = .ok id ↔
    ∃ s ∈ r.shapes, ∃ found : Recognition, s.recognise raw.toList = some (.ok found) ∧
      id = ⟨raw, found.canonicalId, found.fields⟩ := by
  rw [Resolver.parse_eq_ok_iff]
  constructor
  · rintro ⟨found, first, rfl⟩
    obtain ⟨s, among, recognised⟩ := List.exists_of_findSome?_eq_some first
    exact ⟨s, among, found, recognised, rfl⟩
  · rintro ⟨s, among, found, recognised, rfl⟩
    exact ⟨found, (exclusive.only among recognised).2, rfl⟩

/-- One shape matches at most. -/
theorem Exclusive.length_matching (exclusive : r.Exclusive) (raw : String) : (r.matching raw).length ≤ 1 := by
  rw [matching, List.length_map]
  cases all : r.shapes.filter fun s => (s.recognise raw.toList).isSome with
  | nil => exact Nat.zero_le 1
  | cons s others =>
    obtain ⟨among, some⟩ := List.mem_filter.1 (all ▸ List.mem_cons_self)
    obtain ⟨result, recognised⟩ := Option.isSome_iff_exists.1 some
    rw [← all, (exclusive.only among recognised).1]
    exact Nat.le_refl 1

/-- A shape is the one that matches when it recognises the text. -/
theorem Exclusive.matching_eq_singleton_iff (exclusive : r.Exclusive) {name : String} :
    r.matching raw = [name] ↔ ∃ s ∈ r.shapes, s.name = name ∧ (s.recognise raw.toList).isSome = true := by
  constructor
  · intro alone
    obtain ⟨s, among, named⟩ := List.mem_map.1 (show name ∈ r.matching raw by simp [alone])
    obtain ⟨among, some⟩ := List.mem_filter.1 among
    exact ⟨s, among, named, some⟩
  · rintro ⟨s, among, rfl, some⟩
    obtain ⟨result, recognised⟩ := Option.isSome_iff_exists.1 some
    rw [matching, (exclusive.only among recognised).1, List.map_singleton]

/-- Where no shape refuses what it recognises, an ID is refused when it is not accepted. -/
theorem parse_eq_error_iff (lenient : ∀ s ∈ r.shapes, ∀ cs failure, s.recognise cs ≠ some (.error failure))
    {failure : Failure} : r.parse raw = .error failure ↔
      (∀ id, r.parse raw ≠ .ok id) ∧ failure = .invalidResourceId r.resourceType raw r.formats := by
  rw [parse]
  split
  · next found first => simp
  · next failure first =>
    obtain ⟨s, among, refused⟩ := List.exists_of_findSome?_eq_some first
    exact absurd refused (lenient s among _ _)
  · next none => simp [eq_comm]

end Resolver

end ServiceAccess
