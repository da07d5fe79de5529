import Mathlib.Data.List.Basic
import ServiceAccess.Text.Path
import ServiceAccess.Text.Utf16

/-! # Clean paths

A path is clean when nothing in it has to be resolved: names with slashes between them, behind a first slash or none.
Clean paths are normal, and what is joined to them by names stays below them.

* **`IsClean`**: names and slashes.
* **`normalize_of_clean`**, **`join_of_clean`**: clean paths are left as they are.
* **`parent_iff`**: the directory that holds a path. -/

namespace ServiceAccess.Text

/-- Texts behind the same text are in the order of what differs. -/
theorem sortsBefore_append (lead a b : String) : sortsBefore (lead ++ a) (lead ++ b) = sortsBefore a b := by
  have behind (l m n : List Nat) : unitsLe (l ++ m) (l ++ n) = unitsLe m n := by
    induction l with
    | nil => rfl
    | cons x l ih => simp [unitsLe, ih]
  simp [sortsBefore, units, behind]

namespace Path

variable {p q : String}

/-! ## Parts -/

theorem ofParts_parts (p : String) : ofParts (parts p) = p := by
  rw [ofParts, parts, List.intercalate_splitOn, String.ofList_toList]

theorem parts_ne_nil (p : String) : parts p ≠ [] := List.splitOn_ne_nil _ _

theorem parts_append (p q : String) : parts (p ++ "/" ++ q) = parts p ++ parts q := by
  have slash : (p ++ "/" ++ q).toList = p.toList ++ '/' :: q.toList := by simp
  rw [parts, slash, List.splitOn_append_cons_self]
  rfl

/-- There is no separator in a part. -/
theorem not_mem_of_mem_splitOn {c : Char} {cs part : List Char} (here : part ∈ cs.splitOn c) : c ∉ part := by
  induction cs generalizing part with
  | nil =>
    rw [List.splitOn_nil, List.mem_singleton] at here
    rw [here]
    exact List.not_mem_nil
  | cons d cs ih =>
    rw [List.splitOn_cons_eq_if_modifyHead] at here
    split at here
    · rcases List.mem_cons.1 here with rfl | later
      · exact List.not_mem_nil
      · exact ih later
    · next other =>
      obtain ⟨first, rest, split⟩ := List.exists_cons_of_ne_nil (List.splitOn_ne_nil c cs)
      rw [split, List.modifyHead_cons] at here
      rcases List.mem_cons.1 here with rfl | later
      · rw [List.mem_cons, not_or]
        exact ⟨fun same => other (beq_iff_eq.2 same.symm), ih (split ▸ List.mem_cons_self)⟩
      · exact ih (split ▸ List.mem_cons_of_mem _ later)

theorem parts_ofParts {l : List (List Char)} (some : l ≠ []) (plain : ∀ s ∈ l, '/' ∉ s) : parts (ofParts l) = l := by
  rw [parts, ofParts, String.toList_ofList, List.splitOn_intercalate _ plain some]

/-- A path that ends in a slash has an empty part at its end. -/
theorem parts_of_isSlashed (h : isSlashed p = true) : ∃ q, parts p = parts q ++ [[]] := by
  have last : p.toList.getLast? = some '/' := by simpa [isSlashed] using h
  obtain ⟨cs, whole⟩ := List.getLast?_eq_some_iff.1 last
  refine ⟨String.ofList cs, ?_⟩
  rw [parts, whole, parts, String.toList_ofList, List.splitOn_append_cons_self, List.splitOn_nil]

/-- A path that begins with a slash has an empty part at its beginning. -/
theorem parts_of_head (h : p.toList.head? = some '/') : ∃ q, parts p = [] :: parts q := by
  obtain ⟨cs, whole⟩ := List.head?_eq_some_iff.1 h
  refine ⟨String.ofList cs, ?_⟩
  rw [parts, whole, parts, String.toList_ofList]
  exact List.splitOn_append_cons_self [] cs

/-! ## Clean paths -/

/-- A name: it means nothing but itself. -/
def IsName (s : List Char) : Prop := s ≠ [] ∧ s ≠ ['.'] ∧ s ≠ ['.', '.']

/-- **A clean path**: names with slashes between them, behind a first slash or none. -/
def IsClean (p : String) : Prop :=
  ∃ root names, parts p = root :: names ∧ (root = [] ∨ IsName root) ∧ ∀ s ∈ names, IsName s

instance (s : List Char) : Decidable (IsName s) := inferInstanceAs (Decidable (_ ∧ _))

theorem isClean_iff : IsClean p ↔ ((parts p).head (parts_ne_nil p) = [] ∨ IsName ((parts p).head (parts_ne_nil p))) ∧
    ∀ s ∈ (parts p).tail, IsName s := by
  constructor
  · rintro ⟨root, names, whole, isRoot, all⟩
    simpa only [whole, List.head_cons, List.tail_cons] using And.intro isRoot all
  · rintro ⟨isRoot, all⟩
    exact ⟨_, _, (List.cons_head_tail _).symm, isRoot, all⟩

instance (p : String) : Decidable (IsClean p) := decidable_of_iff _ isClean_iff.symm

/-- What is clean stays clean when names follow. -/
theorem IsClean.append (h : IsClean p) (names : ∀ s ∈ parts q, IsName s) : IsClean (p ++ "/" ++ q) := by
  obtain ⟨root, names', whole, isRoot, all⟩ := h
  refine ⟨root, names' ++ parts q, by rw [parts_append, whole, List.cons_append], isRoot, fun s here => ?_⟩
  rcases List.mem_append.1 here with first | later
  · exact all s first
  · exact names s later

/-- No clean path ends in a slash. -/
theorem IsClean.not_isSlashed (h : IsClean p) : isSlashed p = false := by
  obtain ⟨root, names, whole, -, all⟩ := h
  refine Bool.eq_false_iff.2 fun slashed => ?_
  obtain ⟨q, empty⟩ := parts_of_isSlashed slashed
  rw [whole] at empty
  cases split : parts q with
  | nil => exact parts_ne_nil q split
  | cons first rest =>
    rw [split, List.cons_append] at empty
    have here : [] ∈ names := (List.cons.inj empty).2 ▸ List.mem_append_right _ List.mem_cons_self
    exact (all [] here).1 rfl

/-- Nothing is to be climbed between names. -/
theorem climb_of_names {absolute : Bool} {l read : List (List Char)} (names : ∀ s ∈ l, IsName s) :
    climb absolute l read = read.reverse ++ l := by
  induction l generalizing read with
  | nil => simp [climb]
  | cons s l ih =>
    obtain ⟨name, names⟩ := List.forall_mem_cons.1 names
    simp only [climb, if_neg name.2.2, ih names, List.reverse_cons, List.append_assoc, List.singleton_append]

/-- The segments of a clean path are its names. -/
theorem segments_of_names {names : List (List Char)} (whole : parts p = names ∨ parts p = [] :: names)
    (all : ∀ s ∈ names, IsName s) : segments p = names := by
  have kept : names.filter (fun s => s ≠ [] ∧ s ≠ ['.']) = names :=
    List.filter_eq_self.2 fun s here => decide_eq_true ⟨(all s here).1, (all s here).2.1⟩
  rcases whole with whole | whole
  · rw [segments, whole, kept]
  · rw [segments, whole, List.filter_cons_of_neg (by simp), kept]

/-- **Clean paths are normal.** -/
theorem normalize_of_clean (h : IsClean p) (some : p ≠ "") : normalize p = p := by
  have slashed := h.not_isSlashed
  obtain ⟨root, names, whole, isRoot, all⟩ := h
  by_cases absolute : root = []
  · subst absolute
    have first : p = "/" ++ ofParts names := by
      cases names with
      | nil =>
        have empty := congrArg ofParts whole
        rw [ofParts_parts] at empty
        exact absurd empty some
      | cons n names =>
        rw [← ofParts_parts p, whole, ofParts, List.intercalate_cons_cons, String.ofList_append]
        rfl
    have head : p.toList.head? = Option.some '/' := by
      rw [first]
      simp
    simp only [normalize, slashed, segments_of_names (.inr whole) all, climb_of_names all, head]
    simpa using first.symm
  · have name : IsName root := isRoot.resolve_left absolute
    have head : p.toList.head? ≠ Option.some '/' := by
      intro slash
      obtain ⟨q, empty⟩ := parts_of_head slash
      rw [whole] at empty
      exact absolute (List.cons.inj empty).1
    have all : ∀ s ∈ root :: names, IsName s := List.forall_mem_cons.2 ⟨name, all⟩
    simp only [normalize, slashed, segments_of_names (.inl whole) all, climb_of_names all, head]
    rw [← whole]
    simp [ofParts_parts, some]

/-- **Names are joined to clean paths with a slash.** -/
theorem join_of_clean (h : IsClean p) (names : ∀ s ∈ parts q, IsName s) : join p q = p ++ "/" ++ q := by
  have some : q ≠ "" := by
    rintro rfl
    exact (names [] List.mem_cons_self).1 rfl
  rw [join, if_neg some, normalize_of_clean (h.append names)]
  intro empty
  have length := congrArg String.length empty
  simp [String.length_append] at length

/-- The directories that hold a clean path are clean. -/
theorem IsClean.of_mem_ancestors (h : IsClean p) (holds : q ∈ ancestors p) : IsClean q := by
  obtain ⟨root, names, whole, isRoot, all⟩ := h
  obtain ⟨n, -, rfl⟩ := List.mem_map.1 holds
  have plain : ∀ s ∈ (parts p).take (n + 1), '/' ∉ s := fun s here => not_mem_of_mem_splitOn (List.mem_of_mem_take here)
  rw [whole, List.take_succ_cons] at plain
  refine ⟨root, names.take n, ?_, isRoot, fun s here => all s (List.mem_of_mem_take here)⟩
  rw [whole, List.take_succ_cons, parts_ofParts (List.cons_ne_nil _ _) plain]

/-- A path has one part when there is no slash in it. -/
theorem parts_of_name {name : String} (plain : '/' ∉ name.toList) : parts name = [name.toList] :=
  List.splitOn_eq_singleton plain

/-- The last directory that holds a path. -/
theorem getLast?_ancestors {front : List (List Char)} {last : List Char} (whole : parts p = front ++ [last]) :
    (ancestors p).getLast? = if front = [] then none else some (ofParts front) := by
  have length : (parts p).length - 1 = front.length := by rw [whole]; simp
  rw [ancestors, length, List.getLast?_map, List.getLast?_range]
  cases front with
  | nil => rfl
  | cons first rest => simp [whole]

/-- **The directory that holds a path** is all of it before the last slash. -/
theorem parent_iff : (ancestors p).getLast? = some q ↔ ∃ name : String, '/' ∉ name.toList ∧ p = q ++ "/" ++ name := by
  constructor
  · intro holds
    obtain ⟨front, last, whole⟩ := (List.eq_nil_or_concat (parts p)).resolve_left (parts_ne_nil p)
    rw [List.concat_eq_append] at whole
    rw [getLast?_ancestors whole] at holds
    split at holds
    · cases holds
    · next some =>
      obtain rfl := Option.some.inj holds
      have plain : ∀ s ∈ front ++ [last], '/' ∉ s := whole ▸ fun s here => not_mem_of_mem_splitOn here
      refine ⟨String.ofList last, by simpa using plain last (by simp), ?_⟩
      have same : parts p = parts (ofParts front ++ "/" ++ String.ofList last) := by
        rw [whole, parts_append, parts_ofParts some fun s here => plain s (List.mem_append_left _ here),
          parts_of_name (by simpa using plain last (by simp)), String.toList_ofList]
      rw [← ofParts_parts p, same, ofParts_parts]
  · rintro ⟨name, plain, rfl⟩
    rw [getLast?_ancestors (by rw [parts_append, parts_of_name plain]), if_neg (parts_ne_nil q), ofParts_parts]

end Path

end ServiceAccess.Text
