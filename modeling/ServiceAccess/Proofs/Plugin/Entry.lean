import ServiceAccess.Proofs.Plugin.Loading

/-! # Where the code of a plugin starts

The search for an entry module ends at the first place where there is anything. Mostly that is a file; but a directory
ends the search as well, and the files behind it are not found.

* **`FileTree.Obstructs`**: a directory comes before all files.
* **`Entry.Declares`**: what the package file of a directory declares.
* **`Entry.EndsAt`**: where a search ends, by the test that it makes.
* **`Entry.findsFirstFile_iff`**: the search finds the first file exactly when no directory is in its way. -/

namespace ServiceAccess

/-! ## Directories before files -/

namespace FileTree

variable {t : FileTree} {p : String} {paths : List String}

theorem contains_of_isFile (file : t.isFile p = true) : t.contains p = true := by rw [contains, file, Bool.true_or]

/-- There is a file where a text is read. -/
theorem contains_of_read {text : String} (read : t.read p = .ok text) : t.contains p = true := by
  refine contains_of_isFile ?_
  rw [isFile, Table.contains_eq_isSome]
  rw [FileTree.read] at read
  cases there : t.files.get? p with
  | some text => rfl
  | none =>
    rw [there] at read
    dsimp only at read
    split at read <;> cases read

/-- **A directory comes before all files** of a list of paths. -/
def Obstructs (t : FileTree) (paths : List String) : Prop :=
  ∃ before path after, paths = before ++ path :: after ∧ t.isDirectory path = true ∧
    ∀ q ∈ before ++ [path], t.isFile q = false

theorem not_obstructs_nil : ¬ t.Obstructs [] := by
  rintro ⟨before, path, after, split, -⟩
  simp at split

/-- The first path is no file, and it is such a directory or one follows. -/
theorem obstructs_cons_iff : t.Obstructs (p :: paths) ↔
    t.isFile p = false ∧ (t.isDirectory p = true ∨ t.Obstructs paths) := by
  constructor
  · rintro ⟨before, path, after, split, directory, plain⟩
    rcases List.cons_eq_append_iff.1 split with ⟨rfl, same⟩ | ⟨before, rfl, rfl⟩
    · obtain ⟨rfl, -⟩ := List.cons.inj same
      exact ⟨plain _ List.mem_cons_self, .inl directory⟩
    · obtain ⟨first, plain⟩ := List.forall_mem_cons.1 plain
      exact ⟨first, .inr ⟨before, path, after, rfl, directory, plain⟩⟩
  · rintro ⟨first, directory | ⟨before, path, after, rfl, directory, plain⟩⟩
    · exact ⟨[], p, paths, rfl, directory, List.forall_mem_singleton.2 first⟩
    · exact ⟨p :: before, path, after, rfl, directory, List.forall_mem_cons.2 ⟨first, plain⟩⟩

instance decidableObstructs (t : FileTree) : (paths : List String) → Decidable (t.Obstructs paths)
  | [] => .isFalse not_obstructs_nil
  | _ :: paths =>
    have := decidableObstructs t paths
    decidable_of_iff _ obstructs_cons_iff.symm

/-- Then the first path that names anything names no file. -/
theorem obstructs_iff : t.Obstructs paths ↔ ∃ path, paths.find? t.contains = some path ∧ t.isFile path = false := by
  induction paths with
  | nil => simp [not_obstructs_nil]
  | cons p paths ih =>
    rw [obstructs_cons_iff, ih]
    cases file : t.isFile p <;> cases directory : t.isDirectory p <;> simp [contains, file, directory]

/-- **The first path that names anything names the first file** exactly when no directory comes before all files. -/
theorem find?_isFile_eq_iff : paths.find? t.isFile = paths.find? t.contains ↔ ¬ t.Obstructs paths := by
  rw [obstructs_iff]
  constructor
  · rintro same ⟨path, first, plain⟩
    rw [first] at same
    rw [List.find?_some same] at plain
    cases plain
  · intro clear
    have absent (q : String) (nothing : t.contains q = false) : t.isFile q = false :=
      Bool.eq_false_iff.2 fun file => Bool.eq_false_iff.1 nothing (contains_of_isFile file)
    cases first : paths.find? t.contains with
    | none =>
      have nothing : ∀ q ∈ paths, t.contains q = false := by simpa using first
      exact List.find?_eq_none.2 (by simpa using fun q here => absent q (nothing q here))
    | some path =>
      -- nothing is named before the first path that names anything, so no file either
      obtain ⟨-, before, after, split, nothing⟩ := List.find?_eq_some_iff_append.1 first
      have file : t.isFile path = true := Bool.eq_true_of_not_eq_false fun plain => clear ⟨path, first, plain⟩
      have nothing : ∀ q ∈ before, t.contains q = false := by simpa using nothing
      exact List.find?_eq_some_iff_append.2
        ⟨file, before, after, split, by simpa using fun q here => absent q (nothing q here)⟩

end FileTree

namespace Entry

variable {t : FileTree} {dir : String} {declaration : Option String}

/-! ## What a package file declares -/

/-- The path of the package file of a directory. -/
def packagePath (dir : String) : String := Text.Path.join dir "package.json"

/-- A package file that is missing or JSON. -/
def HasProperPackage (t : FileTree) (dir : String) : Prop :=
  t.contains (packagePath dir) = false ∨
    ∃ text v, t.read (packagePath dir) = .ok text ∧ Json.parse? text = some v

/-- An entry module that a JSON value declares: the text in its member `serviceConnectors.entry`. -/
def DeclaresIn (v : Json) (entry : String) : Prop :=
  ∃ own, v.member? "serviceConnectors" = some own ∧ own.member? "entry" = some (.str entry)

/-- **What the package file of a directory declares** as the entry module. -/
inductive Declares (t : FileTree) (dir : String) : Option String → Prop
  /-- There is no package file. -/
  | missing : t.contains (packagePath dir) = false → Declares t dir none
  /-- The package file declares a text. -/
  | entry {text entry : String} {v : Json} : t.read (packagePath dir) = .ok text → Json.parse? text = some v →
      DeclaresIn v entry → Declares t dir (some entry)
  /-- The package file declares no text. -/
  | nothing {text : String} {v : Json} : t.read (packagePath dir) = .ok text → Json.parse? text = some v →
      (∀ entry, ¬ DeclaresIn v entry) → Declares t dir none

theorem declaredIn_eq_some_iff {v : Json} {entry : String} : declaredIn v = some entry ↔ DeclaresIn v entry := by
  have text (w : Json) : w.text? = some entry ↔ w = .str entry := by cases w <;> simp [Json.text?]
  simp [declaredIn, DeclaresIn, Option.bind_eq_some_iff, text]

theorem Declares.of_json {text : String} {v : Json} (read : t.read (packagePath dir) = .ok text)
    (parsed : Json.parse? text = some v) : Declares t dir (declaredIn v) := by
  cases own : declaredIn v with
  | some entry => exact .entry read parsed (declaredIn_eq_some_iff.1 own)
  | none =>
    refine .nothing read parsed fun entry other => ?_
    rw [declaredIn_eq_some_iff.2 other] at own
    cases own

theorem declared_of_json {text : String} {v : Json} (read : t.read (packagePath dir) = .ok text)
    (parsed : Json.parse? text = some v) : declared t dir = .ok (declaredIn v) := by
  rw [packagePath] at read
  simp [declared, FileTree.contains_of_read read, read, Manifest.parseJson, parsed, bind, Except.bind, pure,
    Except.pure]

/-- **A proper package file** tells what is declared, be it nothing. -/
theorem hasProperPackage_iff : HasProperPackage t dir ↔ ∃ declaration, Declares t dir declaration := by
  constructor
  · rintro (nowhere | ⟨text, v, read, parsed⟩)
    · exact ⟨none, .missing nowhere⟩
    · exact ⟨_, .of_json read parsed⟩
  · rintro ⟨declaration, nowhere | ⟨read, parsed, -⟩ | ⟨read, parsed, -⟩⟩
    · exact .inl nowhere
    · exact .inr ⟨_, _, read, parsed⟩
    · exact .inr ⟨_, _, read, parsed⟩

theorem Declares.declared_eq (declares : Declares t dir declaration) : declared t dir = .ok declaration := by
  cases declares with
  | missing nowhere =>
    rw [packagePath] at nowhere
    simp [declared, nowhere]
  | entry read parsed own => rw [declared_of_json read parsed, declaredIn_eq_some_iff.2 own]
  | nothing read parsed none =>
    rw [declared_of_json read parsed, Option.eq_none_iff_forall_ne_some.2 fun entry own =>
      none entry (declaredIn_eq_some_iff.1 own)]

/-- **What is declared is read.** -/
theorem declares_iff : Declares t dir declaration ↔ declared t dir = .ok declaration := by
  refine ⟨Declares.declared_eq, fun own => ?_⟩
  -- a package file that is there has been read and parsed, or else nothing would be declared
  cases there : t.contains (packagePath dir) with
  | false =>
    have same := (Declares.missing there).declared_eq
    rw [own] at same
    exact Except.ok.inj same ▸ .missing there
  | true =>
    cases read : t.read (packagePath dir) with
    | error e =>
      rw [packagePath] at there read
      simp [declared, there, read, bind, Except.bind] at own
    | ok text =>
      cases parsed : Json.parse? text with
      | none =>
        rw [packagePath] at there read
        simp [declared, there, read, Manifest.parseJson, parsed, bind, Except.bind] at own
      | some v =>
        rw [declared_of_json read parsed] at own
        exact Except.ok.inj own ▸ .of_json read parsed

/-- One thing is declared. -/
theorem Declares.unique {other : Option String} (declares : Declares t dir declaration)
    (declares' : Declares t dir other) : declaration = other :=
  Except.ok.inj (declares.declared_eq.symm.trans declares'.declared_eq)

instance (t : FileTree) (dir : String) (declaration : Option String) : Decidable (Declares t dir declaration) :=
  decidable_of_iff ((declared t dir).toOption = some declaration) <| by
    rw [declares_iff]
    cases declared t dir <;> simp [Except.toOption]

/-! ## The search -/

/-- The paths at which an entry module is looked for, in this order. -/
def places (dir : String) (declaration : Option String) : List String :=
  (declaration.toList ++ usualPlaces).map (Text.Path.join dir)

theorem resolve_eq (declares : Declares t dir declaration) :
    resolve t dir = .ok ((places dir declaration).find? t.contains) := by
  rw [resolve, declares.declared_eq]
  rfl

/-- **Where a search ends**: at the declared place if that meets the test, else at the first usual place that does, and
nowhere if none does. -/
inductive EndsAt (test : String → Bool) (dir : String) (declaration : Option String) : Option String → Prop
  /-- The declared place meets the test. -/
  | declared {entry : String} : declaration = some entry → test (Text.Path.join dir entry) = true →
      EndsAt test dir declaration (some (Text.Path.join dir entry))
  /-- The declared place, if there is one, does not; this usual place is the first that does. -/
  | usual {place : String} {before after : List String} :
      (∀ entry, declaration = some entry → test (Text.Path.join dir entry) = false) →
      usualPlaces = before ++ place :: after → (∀ q ∈ before, test (Text.Path.join dir q) = false) →
      test (Text.Path.join dir place) = true → EndsAt test dir declaration (some (Text.Path.join dir place))
  /-- No place meets the test. -/
  | nowhere : (∀ entry, declaration = some entry → test (Text.Path.join dir entry) = false) →
      (∀ place ∈ usualPlaces, test (Text.Path.join dir place) = false) → EndsAt test dir declaration none

variable {test : String → Bool} {result : Option String}

theorem find?_places (test : String → Bool) : (places dir declaration).find? test =
    ((declaration.map (Text.Path.join dir)).filter test).or
      ((usualPlaces.find? fun place => test (Text.Path.join dir place)).map (Text.Path.join dir)) := by
  simp only [places, List.map_append, List.find?_append, List.find?_map, Function.comp_def]
  cases declaration with
  | none => rfl
  | some entry => cases met : test (Text.Path.join dir entry) <;> simp [Option.filter, met]

/-- Nothing is found at a declared place that does not meet the test. -/
theorem filter_declaration (unmet : ∀ entry, declaration = some entry → test (Text.Path.join dir entry) = false) :
    (declaration.map (Text.Path.join dir)).filter test = none := by
  cases declaration with
  | none => rfl
  | some entry => simp [Option.filter, unmet entry rfl]

theorem EndsAt.find?_eq (ends : EndsAt test dir declaration result) : (places dir declaration).find? test = result := by
  rw [find?_places]
  cases ends with
  | declared own met =>
    subst own
    simp [Option.filter, met]
  | @usual place before after unmet split earlier met =>
    have first : usualPlaces.find? (fun place => test (Text.Path.join dir place)) = some place :=
      List.find?_eq_some_iff_append.2 ⟨met, before, after, split, by simpa using earlier⟩
    rw [filter_declaration unmet, first]
    rfl
  | nowhere unmet none =>
    have nothing : usualPlaces.find? (fun place => test (Text.Path.join dir place)) = .none :=
      List.find?_eq_none.2 (by simpa using none)
    rw [filter_declaration unmet, nothing]
    rfl

/-- Every search ends. -/
theorem exists_endsAt (test : String → Bool) (dir : String) (declaration : Option String) :
    ∃ result, EndsAt test dir declaration result := by
  -- usual places count only behind a declared place that does not meet the test
  by_cases met : ∃ entry, declaration = some entry ∧ test (Text.Path.join dir entry) = true
  · obtain ⟨entry, own, met⟩ := met
    exact ⟨_, .declared own met⟩
  · have unmet (entry : String) (own : declaration = some entry) : test (Text.Path.join dir entry) = false :=
      Bool.eq_false_iff.2 fun here => met ⟨entry, own, here⟩
    cases first : usualPlaces.find? fun place => test (Text.Path.join dir place) with
    | none => exact ⟨_, .nowhere unmet (by simpa using first)⟩
    | some place =>
      obtain ⟨here, before, after, split, earlier⟩ := List.find?_eq_some_iff_append.1 first
      exact ⟨_, .usual unmet split (by simpa using earlier) here⟩

/-- **A search ends at one place**: the first that meets the test. -/
theorem endsAt_iff : EndsAt test dir declaration result ↔ (places dir declaration).find? test = result := by
  refine ⟨EndsAt.find?_eq, ?_⟩
  rintro rfl
  obtain ⟨result, ends⟩ := exists_endsAt test dir declaration
  rwa [ends.find?_eq]

/-! ## What is found -/

/-- **The search finds the first place that meets a test**, among what is declared and what is usual. -/
def FindsFirst (t : FileTree) (dir : String) (test : String → Bool) : Prop :=
  ∃ declaration result, Declares t dir declaration ∧ resolve t dir = .ok result ∧ EndsAt test dir declaration result

theorem findsFirst_iff (declares : Declares t dir declaration) : FindsFirst t dir test ↔
    (places dir declaration).find? test = (places dir declaration).find? t.contains := by
  constructor
  · rintro ⟨declaration', result, declares', found, ends⟩
    obtain rfl := declares.unique declares'
    rw [resolve_eq declares] at found
    rw [endsAt_iff.1 ends, Except.ok.inj found]
  · intro same
    exact ⟨declaration, _, declares, resolve_eq declares, endsAt_iff.2 same⟩

/-- **A directory is in the way**: among the places where an entry module is looked for, it comes before all files. -/
def Obstructed (t : FileTree) (dir : String) : Prop :=
  ∃ declaration, Declares t dir declaration ∧ t.Obstructs (places dir declaration)

theorem obstructed_iff (declares : Declares t dir declaration) :
    Obstructed t dir ↔ t.Obstructs (places dir declaration) := by
  refine ⟨?_, fun inWay => ⟨declaration, declares, inWay⟩⟩
  rintro ⟨declaration', declares', inWay⟩
  rwa [declares.unique declares']

/-- **What is found** is the first place where there is anything. It is the first file exactly when no directory is in
the way. -/
theorem findsFirstFile_iff (package : HasProperPackage t dir) :
    FindsFirst t dir t.contains ∧ (FindsFirst t dir t.isFile ↔ ¬ Obstructed t dir) := by
  obtain ⟨declaration, declares⟩ := hasProperPackage_iff.1 package
  refine ⟨(findsFirst_iff declares).2 rfl, ?_⟩
  rw [findsFirst_iff declares, FileTree.find?_isFile_eq_iff, obstructed_iff declares]

/-- The tree of a plugin whose package file declares an entry module, with some empty files. -/
def treeWith (entry : String) (files : List String) : FileTree :=
  .ofPaths (.ofList (("/p/a/package.json", "\x7b\"serviceConnectors\":\x7b\"entry\":\"" ++ entry ++ "\"\x7d\x7d")
    :: files.map fun file => (file, ""))) []

/-- A plugin that declares a file which is not there. A usual place is a file, and a later one is a directory. -/
def unbuilt : FileTree := treeWith "dist/main.js" ["/p/a/index.mjs", "/p/a/src/index.ts/notes.txt"]

/-- What is found is the file at the usual place. -/
theorem findsFirstFile_iff_unbuilt : HasProperPackage unbuilt "/p/a" ∧
    FindsFirst unbuilt "/p/a" unbuilt.contains ∧ FindsFirst unbuilt "/p/a" unbuilt.isFile := by
  have declares : Declares unbuilt "/p/a" (some "dist/main.js") := by decide +kernel
  have package : HasProperPackage unbuilt "/p/a" := hasProperPackage_iff.2 ⟨_, declares⟩
  obtain ⟨anything, file⟩ := findsFirstFile_iff package
  refine ⟨package, anything, file.2 ?_⟩
  rw [obstructed_iff declares]
  decide +kernel

/-- A plugin that declares a directory, with a file at a usual place. -/
def library : FileTree := treeWith "lib" ["/p/a/lib/notes.txt", "/p/a/index.mjs"]

/-- **Not every search finds the first file**: a declared directory hides the file at a usual place. -/
theorem not_findsFirstFile_library : ¬ ∀ (t : FileTree) (dir : String), t.WellFormed → dir ∈ t.directories →
    HasProperPackage t dir → FindsFirst t dir t.isFile := by
  intro always
  have declares : Declares library "/p/a" (some "lib") := by decide +kernel
  have finds := always library "/p/a" (FileTree.wellFormed_ofPaths (by decide +kernel)) (by decide +kernel)
    (hasProperPackage_iff.2 ⟨_, declares⟩)
  rw [findsFirst_iff declares] at finds
  revert finds
  decide +kernel

end Entry

end ServiceAccess
