import Mathlib.Data.List.TakeWhile
import ServiceAccess.Plugin.Import
import ServiceAccess.Proofs.Text.Path

/-! # Paths that lead to themselves

Importing reads a path as that of a web address. This makes a difference only where the path has a character that means
something in an address and nothing in a path.

* **`Import.IsPlain`**: a path without such characters.
* **`Import.place_of_plain`**: importing a plain path leads to the file that it names. -/

namespace ServiceAccess.Import

open Text.Path (IsClean IsName parts)

/-- A character that means something in an address and nothing in a path. -/
def isSpecial (c : Char) : Bool := isLineSpace c || endsPath c || c = '\\' || c = '%' || c = '|'

/-- **A plain path**: it has no special character, and no white space at its end. -/
def IsPlain (path : String) : Prop :=
  (∀ c ∈ path.toList, isSpecial c = false) ∧ ∀ c ∈ path.toList.getLast?, ¬ c ≤ ' '

-- by the characters of the path, where to decide it for all characters would take for ever
instance (path : String) : Decidable (IsPlain path) :=
  decidable_of_iff (path.toList.all (fun c => !isSpecial c) = true ∧
    path.toList.getLast?.all (fun c => !decide (c ≤ ' ')) = true) (by
      cases last : path.toList.getLast? <;> simp [IsPlain, last])

/-- A plain path that is not empty is plain below a directory with a plain path. -/
theorem IsPlain.below {dir file : String} (plain : IsPlain file) (nonempty : file ≠ "")
    (above : ∀ c ∈ dir.toList, isSpecial c = false) : IsPlain (dir ++ "/" ++ file) := by
  obtain ⟨ordinary, last⟩ := plain
  have some : file.toList ≠ [] := fun none => nonempty (String.toList_eq_nil_iff.1 none)
  constructor
  · intro c here
    simp only [String.toList_append, List.mem_append] at here
    rcases here with (inDir | slash) | inFile
    · exact above c inDir
    · obtain rfl := List.mem_singleton.1 slash
      decide
    · exact ordinary c inFile
  · rw [String.toList_append, List.getLast?_append_of_ne_nil _ some]
    exact last

/-- A character that is not special is not one of these. -/
theorem isSpecial_eq_false_iff {c : Char} : isSpecial c = false ↔
    isLineSpace c = false ∧ endsPath c = false ∧ c ≠ '\\' ∧ c ≠ '%' ∧ c ≠ '|' := by
  simp [isSpecial, and_assoc]

variable {path : String} {cs segment : List Char}

/-- Nothing is dropped from a plain path. -/
theorem addressPath_of_plain (plain : IsPlain path) : addressPath path = path.toList := by
  obtain ⟨ordinary, last⟩ := plain
  have kept : path.toList.filter (!isLineSpace ·) = path.toList :=
    List.filter_eq_self.2 fun c here => by simp [(isSpecial_eq_false_iff.1 (ordinary c here)).1]
  have whole : path.toList.reverse.dropWhile (· ≤ ' ') = path.toList.reverse := by
    cases reversed : path.toList.reverse with
    | nil => rfl
    | cons c rest =>
      have final : path.toList.getLast? = some c := by rw [← List.head?_reverse, reversed]; rfl
      rw [List.dropWhile_cons_of_neg]
      simpa using last c final
  rw [addressPath, kept, whole, List.reverse_reverse]
  exact List.takeWhile_eq_self_iff.2 fun c here => by simp [(isSpecial_eq_false_iff.1 (ordinary c here)).2.1]

/-- Without backslashes, segments are what stands between slashes. -/
theorem splitOnP_of_plain (plain : ∀ c ∈ cs, c ≠ '\\') : cs.splitOnP isSeparator = cs.splitOn '/' := by
  rw [List.splitOn_eq_splitOnP]
  induction cs with
  | nil => rfl
  | cons c cs ih =>
    obtain ⟨first, rest⟩ := List.forall_mem_cons.1 plain
    have same : isSeparator c = (c == '/') := by simp [isSeparator, first, Bool.beq_eq_decide_eq]
    rw [List.splitOnP_cons_eq_if_modifyHead, List.splitOnP_cons_eq_if_modifyHead, same, ih rest]

/-- Without percent signs, dots are written as such. -/
theorem withDots_of_plain (plain : '%' ∉ segment) : withDots segment = segment := by
  induction segment with
  | nil => rfl
  | cons c segment ih =>
    rw [List.mem_cons, not_or] at plain
    rw [withDots, ih plain.2]
    rintro e rest rfl
    exact absurd rfl plain.1

/-- Without bars, there is no drive letter to be spelt otherwise. -/
theorem drive_of_plain (plain : '|' ∉ segment) : drive segment = segment := by
  unfold drive
  split
  · simp at plain
  · rfl

/-- Nothing is to be climbed between names. -/
theorem climb_of_plain {names read : List (List Char)} (all : ∀ s ∈ names, IsName s ∧ '%' ∉ s ∧ '|' ∉ s) :
    climb names read = read.reverse ++ names := by
  induction names generalizing read with
  | nil => rw [climb, List.append_nil]
  | cons s names ih =>
    obtain ⟨⟨⟨-, dot, dots⟩, percent, bar⟩, rest⟩ := List.forall_mem_cons.1 all
    rw [climb, withDots_of_plain percent, if_neg dots, if_neg dot, drive_of_plain bar, ite_self, ih rest,
      List.reverse_cons, List.append_assoc]
    rfl

/-- Without percent signs, a segment is the text that it writes. -/
theorem segmentText?_of_plain (plain : '%' ∉ segment) : segmentText? segment = some segment := by
  have bytes : bytes? segment = some (segment.flatMap String.utf8EncodeChar) := by
    induction segment with
    | nil => rfl
    | cons c segment ih =>
      rw [List.mem_cons, not_or] at plain
      rw [bytes?, if_neg (Ne.symm plain.1), ih plain.2, Option.map_some, List.flatMap_cons]
      rintro high low rest rfl
      exact absurd rfl plain.1
  have decoded : (segment.flatMap String.utf8EncodeChar).toByteArray.utf8Decode? = some segment.toArray :=
    List.utf8Decode?_utf8Encode
  rw [segmentText?, bytes]
  simp [decoded]

/-- All names are the texts that they write. -/
theorem mapM_segmentText?_of_plain {names : List (List Char)} (plain : ∀ s ∈ names, '%' ∉ s) :
    names.mapM segmentText? = some names := by
  induction names with
  | nil => rfl
  | cons s names ih =>
    obtain ⟨first, rest⟩ := List.forall_mem_cons.1 plain
    rw [List.mapM_cons, segmentText?_of_plain first, ih rest]
    rfl

/-- A part of a split text has characters of the text. -/
theorem mem_of_mem_splitOn {c sep : Char} {part : List Char} (here : part ∈ cs.splitOn sep) (there : c ∈ part) :
    c ∈ cs := by
  induction cs generalizing part with
  | nil =>
    rw [List.splitOn_nil, List.mem_singleton] at here
    rwa [here] at there
  | cons d cs ih =>
    rw [List.splitOn_cons_eq_if_modifyHead] at here
    split at here
    · rcases List.mem_cons.1 here with rfl | later
      · cases there
      · exact List.mem_cons_of_mem d (ih later there)
    · obtain ⟨first, rest, split⟩ := List.exists_cons_of_ne_nil (List.splitOn_ne_nil sep cs)
      rw [split, List.modifyHead_cons] at here
      rcases List.mem_cons.1 here with rfl | later
      · rcases List.mem_cons.1 there with rfl | inside
        · exact List.mem_cons_self
        · exact List.mem_cons_of_mem d (ih (split ▸ List.mem_cons_self) inside)
      · exact List.mem_cons_of_mem d (ih (split ▸ List.mem_cons_of_mem _ later) there)

theorem mem_of_mem_below {c : Char} (here : c ∈ below cs) : c ∈ cs := by
  rw [below] at here
  split at here
  · exact List.mem_of_mem_tail here
  · exact here

/-- A clean path has names below its root. -/
theorem isName_of_clean (clean : IsClean path) (nonempty : path ≠ "") :
    ∀ s ∈ (below path.toList).splitOn '/', IsName s := by
  obtain ⟨root, names, whole, isRoot, all⟩ := clean
  rw [below]
  split
  · next absolute =>
    obtain ⟨cs, text⟩ := List.head?_eq_some_iff.1 absolute
    rw [parts, text, List.splitOn_cons_eq_if_modifyHead, if_pos (beq_self_eq_true _)] at whole
    obtain ⟨-, rfl⟩ := List.cons.inj whole
    rwa [text, List.tail_cons]
  · next relative =>
    -- the first part is empty only behind a slash
    have named : IsName root := by
      refine isRoot.resolve_left ?_
      rintro rfl
      cases text : path.toList with
      | nil => exact nonempty (String.toList_eq_nil_iff.1 text)
      | cons c cs =>
        rw [text, List.head?_cons, Option.some.injEq] at relative
        rw [parts, text, List.splitOn_cons_eq_if_modifyHead, if_neg (by simpa using relative)] at whole
        obtain ⟨first, rest, split⟩ := List.exists_cons_of_ne_nil (List.splitOn_ne_nil '/' cs)
        rw [split, List.modifyHead_cons] at whole
        cases whole
    rw [← parts, whole]
    exact List.forall_mem_cons.2 ⟨named, all⟩

/-- A path is its root and what stands below it. -/
theorem append_below (path : String) : (if path.toList.head? = some '/' then "/" else "") ++
    Text.Path.ofParts ((below path.toList).splitOn '/') = path := by
  rw [Text.Path.ofParts, List.intercalate_splitOn, ← String.toList_inj, String.toList_append, String.toList_ofList,
    below]
  split
  · next absolute =>
    obtain ⟨cs, text⟩ := List.head?_eq_some_iff.1 absolute
    rw [text]
    rfl
  · rfl

/-- **A plain path leads to the file that it names.** -/
theorem place_of_plain (plain : IsPlain path) (clean : IsClean path) (nonempty : path ≠ "") :
    place path = .ok path := by
  have names := isName_of_clean clean nonempty
  have ordinary : ∀ c ∈ below path.toList, isSpecial c = false := fun c here => plain.1 c (mem_of_mem_below here)
  have slashes : (below path.toList).splitOnP isSeparator = (below path.toList).splitOn '/' :=
    splitOnP_of_plain fun c here => (isSpecial_eq_false_iff.1 (ordinary c here)).2.2.1
  have apart : ∀ s ∈ (below path.toList).splitOn '/', '%' ∉ s ∧ '|' ∉ s := by
    refine fun s here => ⟨fun there => ?_, fun there => ?_⟩ <;>
      exact absurd (ordinary _ (mem_of_mem_splitOn here there)) (by decide)
  have climbed : climb ((below path.toList).splitOn '/') [] = (below path.toList).splitOn '/' :=
    climb_of_plain fun s here => ⟨names s here, apart s here⟩
  have texts := mapM_segmentText?_of_plain fun s here => (apart s here).1
  -- the first name is not empty, so no second slash follows the first
  have single : ((below path.toList).head?.map isSeparator).getD false = false := by
    cases first : below path.toList with
    | nil => rfl
    | cons c cs =>
      rw [first] at names ordinary
      have slash : c ≠ '/' := by
        rintro rfl
        rw [List.splitOn_cons_eq_if_modifyHead, if_pos (beq_self_eq_true _)] at names
        exact (names [] List.mem_cons_self).1 rfl
      have backslash := (isSpecial_eq_false_iff.1 (ordinary c List.mem_cons_self)).2.2.1
      simp [isSeparator, slash, backslash]
  rw [place, addressPath_of_plain plain]
  simp only [single, Bool.false_eq_true, if_false, slashes, climbed, texts, append_below]
  rw [Text.Path.normalize_of_clean clean nonempty]

end ServiceAccess.Import
