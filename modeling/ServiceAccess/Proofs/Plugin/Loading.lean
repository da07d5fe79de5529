import Mathlib.Data.List.Find
import Mathlib.Data.List.Forall2
import Mathlib.Data.Set.List
import ServiceAccess.Plugin.Loader
import ServiceAccess.Proofs.Plugin.Import
import ServiceAccess.Proofs.Table

/-! # Loading plugins, one by one

Plugins are loaded one after another, and one that fails is reported and left behind. So what becomes of a directory is
a matter of the directory, and loading more paths adds to what has been loaded.

* **`FileTree.WellFormed`**: clean directories, each once.
* **`PluginHost.Worded`**: all that the code of plugins raises can be described.
* **`PluginHost.Fails`**, **`PluginHost.Fate`**: how a plugin can fail, and what becomes of a plugin directory.
* **`PluginHost.PluginNames`**: the names of the plugin directories of a search path, in order.
* **`PluginHost.Searches`**: what comes of a search path.
* **`PluginHost.SameContent`**, **`PluginHost.Alike`**: two hosts that hold the same in a directory, and where its
  package file and the path of its entry module lead.
* **`PluginHost.Enclosed`**: a directory of which neither leads out (`SameContent.alike`).
* **`PluginHost.loads_one_by_one`**: plugins are loaded one by one. -/

namespace ServiceAccess

open Text.Path (IsClean IsName)

/-! ## File trees -/

namespace FileTree

/-- What is left of a list without repetitions has none. -/
theorem nodup_eraseDups : (l : List String) → l.eraseDups.Nodup
  | [] => List.nodup_nil
  | a :: l => by
    rw [List.eraseDups_cons, List.nodup_cons]
    exact ⟨by simp, nodup_eraseDups (l.filter fun b => !b == a)⟩
termination_by l => l.length
decreasing_by exact Nat.lt_succ_of_le (List.length_filter_le _ _)

/-- **A well-formed tree**: its directories are clean paths, and each is listed once. -/
structure WellFormed (t : FileTree) : Prop where
  /-- Each directory is listed once. -/
  nodup : t.directories.Nodup
  /-- They are clean paths. -/
  clean : ∀ d ∈ t.directories, IsClean d

/-- The tree of clean paths is well-formed. -/
theorem wellFormed_ofPaths {files : Table String String} {directories : List String}
    (clean : ∀ p ∈ files.keys ++ directories, IsClean p) : (ofPaths files directories).WellFormed where
  nodup := nodup_eraseDups _
  clean d here := by
    rcases List.mem_append.1 (List.mem_eraseDups.1 here) with listed | above
    · exact clean d (List.mem_append_right _ listed)
    · obtain ⟨p, held, holds⟩ := List.mem_flatMap.1 above
      exact IsClean.of_mem_ancestors (clean p held) holds

/-- The directories in a directory. -/
theorem mem_subdirectories_iff {t : FileTree} {path d : String} : d ∈ t.subdirectories path ↔
    d ∈ t.directories ∧ ∃ name : String, '/' ∉ name.toList ∧ d = Text.Path.withoutSlash path ++ "/" ++ name := by
  simp only [subdirectories, List.mem_filter, decide_eq_true_eq, Text.Path.parent_iff]

end FileTree

namespace LoadReport

/-- Reports, one after another. -/
def concat (reports : List LoadReport) : LoadReport := ⟨reports.flatMap plugins, reports.flatMap events⟩

end LoadReport

/-! ## What becomes of a plugin directory -/

namespace PluginHost

variable {h h' : PluginHost} {s : PluginSelection} {dir path : String} {report : LoadReport}
  {m : Manifest}

/-- A plugin that is to be loaded: its manifest has been read, it is not disabled, and it is enabled if only some
plugins are. -/
structure Wanted (h : PluginHost) (s : PluginSelection) (dir : String) (m : Manifest) : Prop where
  /-- The manifest has been read. -/
  manifest : Manifest.read h.tree dir = .ok m
  /-- The plugin is not disabled. -/
  notDisabled : m.id ∉ s.disabled
  /-- It is among those to load, if these are listed. -/
  enabled : ∀ ids, s.enabled = some ids → m.id ∈ ids

/-- The register function of a plugin that is to be loaded. -/
structure Offers (h : PluginHost) (s : PluginSelection) (dir : String) (m : Manifest) (source : String)
    (f : RegisterFunction) : Prop where
  /-- The plugin is to be loaded. -/
  wanted : Wanted h s dir m
  /-- This is the path of its entry module. -/
  entry : Entry.resolve h.tree dir = .ok (some source)
  /-- The module to which importing it leads is loaded and exports the function. -/
  exports : ∃ place loaded, Import.place source = .ok place ∧ h.moduleAt place = .ok loaded ∧
    loaded.registerFunction? = some f

/-- **How a plugin can fail**: with what is raised, and after which calls. -/
inductive Fails (h : PluginHost) (s : PluginSelection) (dir : String) : Raised → List LoadEvent → Prop
  /-- The manifest cannot be read. -/
  | unreadable {e : Failure} : h.tree.read (Text.Path.join dir Manifest.fileName) = .error e →
      Fails h s dir (.failure e) []
  /-- The manifest is no JSON. -/
  | malformed {text : String} : h.tree.read (Text.Path.join dir Manifest.fileName) = .ok text →
      Json.parse? text = none →
      Fails h s dir (.failure (.service ⟨"SyntaxError", "<JSON syntax error>", none, none, none⟩)) []
  /-- The manifest does not meet its schema. -/
  | invalid {text : String} {v : Json} {e : Failure} : h.tree.read (Text.Path.join dir Manifest.fileName) = .ok text →
      Json.parse? text = some v → Manifest.ofJson v = .error e → Fails h s dir (.failure e) []
  /-- The package file cannot be read, or it is no JSON. -/
  | package {m : Manifest} {e : Failure} : Wanted h s dir m → Entry.resolve h.tree dir = .error e →
      Fails h s dir (.failure e) []
  /-- There is no entry module. -/
  | noEntry {m : Manifest} : Wanted h s dir m → Entry.resolve h.tree dir = .ok none →
      Fails h s dir (.failure (.service (.plain ("No entry module found in " ++ dir)))) []
  /-- Importing the path of the entry module leads to no file. -/
  | misread {m : Manifest} {source : String} {e : Failure} : Wanted h s dir m →
      Entry.resolve h.tree dir = .ok (some source) → Import.place source = .error e → Fails h s dir (.failure e) []
  /-- The module to which it leads fails. -/
  | imported {m : Manifest} {source place : String} {raised : Raised} : Wanted h s dir m →
      Entry.resolve h.tree dir = .ok (some source) → Import.place source = .ok place →
      h.moduleAt place = .error raised → Fails h s dir raised []
  /-- The module exports no register function. -/
  | exportsNone {m : Manifest} {source place : String} {loaded : PluginModule} : Wanted h s dir m →
      Entry.resolve h.tree dir = .ok (some source) → Import.place source = .ok place →
      h.moduleAt place = .ok loaded → loaded.registerFunction? = none →
      Fails h s dir (.failure (.service (.plain (source ++ " exports no register function")))) []
  /-- The register function fails, whatever it has contributed before. -/
  | registered {m : Manifest} {source : String} {f : RegisterFunction} {raised : Raised} :
      Offers h s dir m source f → f.failure = some raised → Fails h s dir raised [.called m.id m.displayName]

/-- **What becomes of a plugin directory**: the plugins and the lines that it adds. -/
inductive Fate (h : PluginHost) (s : PluginSelection) (dir : String) : LoadReport → Prop
  /-- The plugin fails: one line tells why, and there is no plugin. -/
  | failed {raised : Raised} {calls : List LoadEvent} {why : String} : Fails h s dir raised calls →
      raised.text? = some why → Fate h s dir
        ⟨[], calls ++ [.log ⟨.error, "Failed to load plugin from " ++ dir ++ ": " ++ why⟩]⟩
  /-- The plugin is disabled: one line says so. -/
  | disabled {m : Manifest} : Manifest.read h.tree dir = .ok m → m.id ∈ s.disabled → Fate h s dir
      ⟨[], [.log ⟨.info, "Plugin \"" ++ m.id ++ "\" is disabled, skipping."⟩]⟩
  /-- The plugin is not among those to load: there is no line. -/
  | leftOut {m : Manifest} {ids : List String} : Manifest.read h.tree dir = .ok m → m.id ∉ s.disabled →
      s.enabled = some ids → m.id ∉ ids → Fate h s dir ⟨[], []⟩
  /-- The plugin is loaded, with all types that it has contributed. -/
  | loaded {m : Manifest} {source : String} {f : RegisterFunction} : Offers h s dir m source f → f.failure = none →
      Fate h s dir ⟨[⟨m.id, m.displayName, m.description, m.version, source, f.types ++ f.lateTypes⟩],
        [.called m.id m.displayName, .log ⟨.info, "Loaded plugin: " ++ m.id ++ " ("
          ++ toString (f.types ++ f.lateTypes).length ++ " connector types)"⟩]⟩

theorem Wanted.outcome (wanted : Wanted h s dir m) : h.outcome s dir = h.loadPlugin dir m := by
  have notDisabled : s.disabled.contains m.id = false := by simpa using wanted.notDisabled
  have enabled : (s.enabled.map fun ids => !ids.contains m.id).getD false = false := by
    cases only : s.enabled with
    | none => rfl
    | some ids => simpa using wanted.enabled ids only
  rw [PluginHost.outcome, wanted.manifest]
  simp only [notDisabled, enabled, Bool.false_eq_true, if_false]

theorem importModule_of_place {source place : String} (leads : Import.place source = .ok place) :
    h.importModule source = h.moduleAt place := by
  rw [importModule, leads]
  rfl

theorem importModule_of_misread {source : String} {e : Failure} (misread : Import.place source = .error e) :
    h.importModule source = .error (.failure e) := by
  rw [importModule, misread]
  rfl

/-- What is found where a plugin directory has an entry module. -/
theorem entryFunction_of_entry {source : String} (entry : Entry.resolve h.tree dir = .ok (some source)) :
    h.entryFunction dir = (h.importModule source).bind fun loaded => loaded.registerFunction?.elim
      (.error (.failure (.service (.plain (source ++ " exports no register function"))))) fun f => .ok (source, f) := by
  rw [entryFunction, entry]
  cases imported : h.importModule source with
  | error raised => simp [imported, Except.mapError, bind, Except.bind]
  | ok loaded =>
    cases exported : loaded.registerFunction? <;>
      simp [imported, exported, Except.mapError, bind, Except.bind, pure, Except.pure]

theorem Offers.entryFunction {source : String} {f : RegisterFunction} (offers : Offers h s dir m source f) :
    h.entryFunction dir = .ok (source, f) := by
  obtain ⟨place, loaded, leads, imported, exported⟩ := offers.exports
  rw [entryFunction_of_entry offers.entry, importModule_of_place leads, imported, Except.bind, exported]
  rfl

/-- A plugin that is not read fails. -/
theorem outcome_of_unread {e : Failure} (unread : Manifest.read h.tree dir = .error e) :
    h.outcome s dir = (.failed (.failure e), []) := by
  rw [PluginHost.outcome, unread]

/-- A plugin without a register function fails. -/
theorem Wanted.outcome_of_no_function {raised : Raised} (wanted : Wanted h s dir m)
    (without : h.entryFunction dir = .error raised) : h.outcome s dir = (.failed raised, []) := by
  rw [wanted.outcome, loadPlugin, without]

theorem Fails.outcome {raised : Raised} {calls : List LoadEvent} (fails : Fails h s dir raised calls) :
    h.outcome s dir = (.failed raised, calls) := by
  cases fails with
  -- the manifest is not read
  | unreadable unread =>
    refine outcome_of_unread ?_
    rw [Manifest.read, unread]
    rfl
  | malformed read none =>
    refine outcome_of_unread ?_
    rw [Manifest.read, read]
    simp [Manifest.parseJson, none, bind, Except.bind]
  | invalid read parsed ill =>
    refine outcome_of_unread ?_
    rw [Manifest.read, read]
    simp [Manifest.parseJson, parsed, ill, bind, Except.bind]
  -- no register function is found
  | package wanted failed =>
    refine wanted.outcome_of_no_function ?_
    rw [entryFunction, failed]
    rfl
  | noEntry wanted none =>
    refine wanted.outcome_of_no_function ?_
    rw [entryFunction, none]
    rfl
  | misread wanted entry misread =>
    refine wanted.outcome_of_no_function ?_
    rw [entryFunction_of_entry entry, importModule_of_misread misread]
    rfl
  | imported wanted entry leads failed =>
    refine wanted.outcome_of_no_function ?_
    rw [entryFunction_of_entry entry, importModule_of_place leads, failed]
    rfl
  | exportsNone wanted entry leads imported none =>
    refine wanted.outcome_of_no_function ?_
    rw [entryFunction_of_entry entry, importModule_of_place leads, imported, Except.bind, none]
    rfl
  | @registered _ _ f _ offers failed =>
    have runs : f.run = .error raised := by rw [RegisterFunction.run, failed]
    rw [offers.wanted.outcome, loadPlugin, offers.entryFunction]
    simp only [runs]

/-- What is reported of a plugin that fails: one line, if there is a text for what was raised. -/
theorem Fails.loadDirectory {raised : Raised} {calls : List LoadEvent} (fails : Fails h s dir raised calls) :
    h.loadDirectory s dir = raised.describe.map fun why =>
      ⟨[], calls ++ [.log ⟨.error, "Failed to load plugin from " ++ dir ++ ": " ++ why⟩]⟩ := by
  rw [PluginHost.loadDirectory, fails.outcome]
  simp only [reportOf]
  cases raised.describe <;> rfl

/-- What a fate tells is reported. -/
theorem Fate.loadDirectory_eq (fate : Fate h s dir report) : h.loadDirectory s dir = .ok report := by
  cases fate with
  | failed fails described =>
    rw [fails.loadDirectory, Raised.describe, described]
    rfl
  | disabled read disabled =>
    rw [loadDirectory, PluginHost.outcome, read]
    simp [disabled]
    rfl
  | leftOut read notDisabled only leftOut =>
    rw [loadDirectory, PluginHost.outcome, read]
    simp [notDisabled, only, leftOut]
    rfl
  | @loaded _ _ f offers succeeded =>
    have runs : f.run = .ok (f.types ++ f.lateTypes) := by rw [RegisterFunction.run, succeeded]
    rw [loadDirectory, offers.wanted.outcome, loadPlugin, offers.entryFunction]
    simp only [runs]
    rfl

/-- A plugin that is to be loaded is loaded, or it fails. -/
theorem Wanted.loaded_or_fails (wanted : Wanted h s dir m) :
    (∃ source f, Offers h s dir m source f ∧ f.failure = none) ∨ ∃ raised calls, Fails h s dir raised calls := by
  cases entry : Entry.resolve h.tree dir with
  | error e => exact .inr ⟨_, _, .package wanted entry⟩
  | ok source =>
    cases source with
    | none => exact .inr ⟨_, _, .noEntry wanted entry⟩
    | some source =>
      cases leads : Import.place source with
      | error e => exact .inr ⟨_, _, .misread wanted entry leads⟩
      | ok place =>
        cases imported : h.moduleAt place with
        | error raised => exact .inr ⟨_, _, .imported wanted entry leads imported⟩
        | ok loaded =>
          cases exported : loaded.registerFunction? with
          | none => exact .inr ⟨_, _, .exportsNone wanted entry leads imported exported⟩
          | some f =>
            have offers : Offers h s dir m source f := ⟨wanted, entry, place, loaded, leads, imported, exported⟩
            cases failed : f.failure with
            | none => exact .inl ⟨source, f, offers, failed⟩
            | some raised => exact .inr ⟨_, _, .registered offers failed⟩

/-- A plugin directory has a fate, or the plugin fails. -/
theorem fate_or_fails (h : PluginHost) (s : PluginSelection) (dir : String) :
    (∃ report, Fate h s dir report) ∨ ∃ raised calls, Fails h s dir raised calls := by
  -- the manifest is read in three steps, then it is selected: the first that stops decides
  cases read : h.tree.read (Text.Path.join dir Manifest.fileName) with
  | error e => exact .inr ⟨_, _, .unreadable read⟩
  | ok text =>
    cases parsed : Json.parse? text with
    | none => exact .inr ⟨_, _, .malformed read parsed⟩
    | some v =>
      cases fits : Manifest.ofJson v with
      | error e => exact .inr ⟨_, _, .invalid read parsed fits⟩
      | ok m =>
        have manifest : Manifest.read h.tree dir = .ok m := by
          rw [Manifest.read, read]
          simp [Manifest.parseJson, parsed, fits, bind, Except.bind]
        by_cases disabled : m.id ∈ s.disabled
        · exact .inl ⟨_, .disabled manifest disabled⟩
        · by_cases enabled : ∀ ids, s.enabled = some ids → m.id ∈ ids
          · have wanted : Wanted h s dir m := ⟨manifest, disabled, enabled⟩
            rcases wanted.loaded_or_fails with ⟨source, f, offers, succeeded⟩ | fails
            · exact .inl ⟨_, .loaded offers succeeded⟩
            · exact .inr fails
          · push Not at enabled
            obtain ⟨ids, only, leftOut⟩ := enabled
            exact .inl ⟨_, .leftOut manifest disabled only leftOut⟩

/-- **A plugin directory has one fate**, and loading it reports that. -/
theorem fate_iff : Fate h s dir report ↔ h.loadDirectory s dir = .ok report := by
  refine ⟨Fate.loadDirectory_eq, fun loaded => ?_⟩
  rcases fate_or_fails h s dir with ⟨report', fate⟩ | ⟨raised, calls, fails⟩
  · obtain rfl := Except.ok.inj (fate.loadDirectory_eq.symm.trans loaded)
    exact fate
  · rw [fails.loadDirectory, Raised.describe] at loaded
    cases described : raised.text? with
    | none => rw [described] at loaded; cases loaded
    | some why =>
      rw [described] at loaded
      obtain rfl := Except.ok.inj loaded
      exact .failed fails described

/-! ## Failures that can be described -/

/-- **All that the code of plugins raises can be described.** -/
structure Worded (h : PluginHost) : Prop where
  /-- So can what modules raise. -/
  modules : ∀ place raised, h.moduleAt place = .error raised → ∃ why, raised.text? = some why
  /-- So can what register functions raise. -/
  functions : ∀ place loaded f raised, h.moduleAt place = .ok loaded → loaded.registerFunction? = some f →
    f.failure = some raised → ∃ why, raised.text? = some why

/-- A failure to read a file is such an error object. -/
theorem exists_service_of_read {t : FileTree} {e : Failure} (failed : t.read path = .error e) :
    ∃ fault, e = .service fault := by
  rw [FileTree.read] at failed
  split at failed
  · cases failed
  · split at failed <;> exact ⟨_, (Except.error.inj failed).symm⟩

/-- So is a failure to find the entry module. -/
theorem exists_service_of_resolve {t : FileTree} {e : Failure} (failed : Entry.resolve t dir = .error e) :
    ∃ fault, e = .service fault := by
  rw [Entry.resolve, Entry.declared] at failed
  split at failed
  · cases read : t.read (Text.Path.join dir "package.json") with
    | error e' =>
      rw [read] at failed
      obtain rfl := Except.error.inj failed
      exact exists_service_of_read read
    | ok text =>
      rw [read] at failed
      cases parsed : Json.parse? text with
      | none =>
        simp only [Manifest.parseJson, parsed, bind, Except.bind, Except.error.injEq] at failed
        exact ⟨_, failed.symm⟩
      | some v => simp [Manifest.parseJson, parsed, bind, Except.bind, pure, Except.pure] at failed
  · cases failed

/-- So is what is wrong with a manifest. -/
theorem exists_service_of_ofJson {v : Json} {e : Failure} (failed : Manifest.ofJson v = .error e) :
    ∃ fault, e = .service fault := by
  simp only [Manifest.ofJson] at failed
  split at failed
  · cases failed
  · exact ⟨_, (Except.error.inj failed).symm⟩

/-- So is a failure to read a path as an address. -/
theorem eq_misread_of_place {source : String} {e : Failure} (failed : Import.place source = .error e) :
    e = Import.misread := by
  simp only [Import.place] at failed
  split at failed
  · exact (Except.error.inj failed).symm
  · split at failed
    · cases failed
    · exact (Except.error.inj failed).symm

/-- **A failure of a plugin can be described** when the code of plugins raises nothing that cannot. -/
theorem Worded.exists_text (worded : h.Worded) {raised : Raised} {calls : List LoadEvent}
    (fails : Fails h s dir raised calls) : ∃ why, raised.text? = some why := by
  cases fails with
  | unreadable failed =>
    obtain ⟨fault, rfl⟩ := exists_service_of_read failed
    exact ⟨_, rfl⟩
  | malformed | noEntry | exportsNone => exact ⟨_, rfl⟩
  | invalid _ _ failed =>
    obtain ⟨fault, rfl⟩ := exists_service_of_ofJson failed
    exact ⟨_, rfl⟩
  | package _ failed =>
    obtain ⟨fault, rfl⟩ := exists_service_of_resolve failed
    exact ⟨_, rfl⟩
  | misread _ _ failed =>
    obtain rfl := eq_misread_of_place failed
    exact ⟨_, rfl⟩
  | imported _ _ _ failed => exact worded.modules _ _ failed
  | registered offers failed =>
    obtain ⟨place, loaded, -, imported, exported⟩ := offers.exports
    exact worded.functions _ _ _ _ imported exported failed

/-- Then every plugin directory has a fate. -/
theorem Worded.exists_fate (worded : h.Worded) (s : PluginSelection) (dir : String) :
    ∃ report, Fate h s dir report := by
  rcases fate_or_fails h s dir with fate | ⟨raised, calls, fails⟩
  · exact fate
  · obtain ⟨why, described⟩ := worded.exists_text fails
    exact ⟨_, .failed fails described⟩

/-! ## The plugins of a search path -/

/-- A path below a search path. -/
def below (path name : String) : String := Text.Path.withoutSlash (Text.Path.resolve path) ++ "/" ++ name

/-- **The names of the plugin directories of a search path**: the directories in it that hold a manifest, in the order
of code units. -/
structure PluginNames (h : PluginHost) (path : String) (names : List String) : Prop where
  /-- They are in the order of code units, and each is listed once. -/
  ordered : names.Pairwise fun a b => Text.sortsBefore a b = true ∧ a ≠ b
  /-- They name directories that hold a manifest. -/
  mem_iff : ∀ name, name ∈ names ↔ '/' ∉ name.toList ∧ below path name ∈ h.tree.directories ∧
    h.tree.contains (below path name ++ "/" ++ Manifest.fileName) = true

/-- A search path has one such list. -/
theorem PluginNames.unique {names names' : List String} (all : PluginNames h path names)
    (all' : PluginNames h path names') : names = names' := by
  have perm : names.Perm names' := by
    refine (List.perm_ext_iff_of_nodup ?_ ?_).2 fun name => (all.mem_iff name).trans (all'.mem_iff name).symm
    · exact all.ordered.imp And.right
    · exact all'.ordered.imp And.right
  refine perm.eq_of_pairwise (fun a b _ _ first second => ?_) all.ordered all'.ordered
  exact Text.sortsBefore_antisymm first.1 second.1

theorem below_injective (path : String) : Function.Injective (below path) := by
  intro a b same
  simpa [below, ← String.toList_inj] using same

theorem isName_fileName : ∀ part ∈ Text.Path.parts Manifest.fileName, IsName part := by decide

/-- What is a plugin directory of a search path. -/
theorem mem_plugins_iff (wellFormed : h.tree.WellFormed) {d : String} :
    d ∈ (h.tree.subdirectories (Text.Path.resolve path)).filter
        (fun d => h.tree.contains (Text.Path.join d Manifest.fileName)) ↔
      ∃ name : String, d = below path name ∧ '/' ∉ name.toList ∧ below path name ∈ h.tree.directories ∧
        h.tree.contains (below path name ++ "/" ++ Manifest.fileName) = true := by
  rw [List.mem_filter, FileTree.mem_subdirectories_iff]
  constructor
  · rintro ⟨⟨listed, name, plain, rfl⟩, manifest⟩
    rw [Text.Path.join_of_clean (wellFormed.clean _ listed) isName_fileName] at manifest
    exact ⟨name, rfl, plain, listed, manifest⟩
  · rintro ⟨name, rfl, plain, listed, manifest⟩
    rw [← Text.Path.join_of_clean (wellFormed.clean _ listed) isName_fileName] at manifest
    exact ⟨⟨listed, name, plain, rfl⟩, manifest⟩

/-- **The plugin directories of a search path** are found in this order. -/
theorem exists_pluginNames (wellFormed : h.tree.WellFormed) (path : String) :
    ∃ names, PluginNames h path names ∧ h.candidates (Text.Path.resolve path) = names.map (below path) := by
  -- the names in the order of the tree, which are then sorted
  obtain ⟨found, listed⟩ : (h.tree.subdirectories (Text.Path.resolve path)).filter
      (fun d => h.tree.contains (Text.Path.join d Manifest.fileName)) ∈ Set.range (List.map (below path)) := by
    rw [Set.range_list_map]
    intro d here
    obtain ⟨name, rfl, -⟩ := (mem_plugins_iff wellFormed).1 here
    exact ⟨name, rfl⟩
  have nodup : found.Nodup := by
    refine List.Nodup.of_map (below path) ?_
    rw [listed]
    exact (wellFormed.nodup.filter _).filter _
  have sorted : (Text.sort found).Pairwise fun a b => Text.sortsBefore a b = true := Text.pairwise_mergeSort id found
  have perm : (Text.sort found).Perm found := List.mergeSort_perm found _
  refine ⟨Text.sort found, ⟨?_, fun name => ?_⟩, ?_⟩
  · exact sorted.and (perm.nodup_iff.2 nodup)
  · rw [perm.mem_iff, ← List.mem_map_of_injective (below_injective path), listed, mem_plugins_iff wellFormed]
    constructor
    · rintro ⟨name', same, there⟩
      obtain rfl := below_injective path same
      exact there
    · exact fun there => ⟨name, rfl, there⟩
  · rw [candidates, ← listed]
    exact (List.map_mergeSort fun a _ b _ => (Text.sortsBefore_append _ a b).symm).symm

/-! ## Search paths -/

/-- A search path that is missing or a directory. -/
def Searchable (h : PluginHost) (path : String) : Prop := h.tree.isFile (Text.Path.resolve path) = false

/-- **What comes of a search path.** -/
inductive Searches (h : PluginHost) (s : PluginSelection) (path : String) : LoadReport → Prop
  /-- There is nothing: one line says so. -/
  | missing : h.tree.contains (Text.Path.resolve path) = false → Searches h s path
      ⟨[], [.log ⟨.warn, "Plugin search path " ++ Text.Path.resolve path ++ " does not exist, skipping."⟩]⟩
  /-- There is a directory: its plugins have their fates, one after another. -/
  | directory {names : List String} {reports : List LoadReport} :
      h.tree.isDirectory (Text.Path.resolve path) = true → PluginNames h path names →
      List.Forall₂ (fun name report => Fate h s (below path name) report) names reports →
      Searches h s path (.concat reports)

/-- What becomes of directories comes of one after another. -/
theorem loadDirectories_of_fates {dirs : List String} {reports : List LoadReport}
    (fates : List.Forall₂ (Fate h s) dirs reports) : h.loadDirectories s dirs = .ok (.concat reports) := by
  induction fates with
  | nil => rfl
  | cons fate _ ih =>
    rw [loadDirectories, fate.loadDirectory_eq, ih]
    rfl

theorem Searches.loadPath (wellFormed : h.tree.WellFormed) (searchable : h.Searchable path)
    (searches : Searches h s path report) : h.loadPath s path = .ok report := by
  rw [Searchable] at searchable
  rw [PluginHost.loadPath]
  cases searches with
  | missing nothing => simp [nothing, LoadReport.line]
  | @directory names reports there all fates =>
    obtain ⟨names', all', found⟩ := exists_pluginNames wellFormed path
    obtain rfl := all.unique all'
    have contained : h.tree.contains (Text.Path.resolve path) = true := by rw [FileTree.contains, there, Bool.or_true]
    simp only [contained, searchable, Bool.not_true, Bool.false_eq_true, if_false, found]
    exact loadDirectories_of_fates (List.forall₂_map_left_iff.2 fates)

/-- A path in a directory. -/
def Inside (dir path : String) : Prop := path = dir ∨ ∃ rest, path = dir ++ "/" ++ rest

/-- Two hosts that hold the same at a path. -/
structure SameAt (h h' : PluginHost) (path : String) : Prop where
  /-- The same text, or no file. -/
  file : h.tree.files.get? path = h'.tree.files.get? path
  /-- A directory in both, or in none. -/
  directory : h.tree.isDirectory path = h'.tree.isDirectory path
  /-- The same module, or the same failure. -/
  module : h.moduleAt path = h'.moduleAt path

/-- **Two hosts that hold the same in a directory.** -/
def SameContent (h h' : PluginHost) (dir : String) : Prop := ∀ path, Inside dir path → SameAt h h' path

/-- **Two hosts that hold the same in a directory, and where its package file and the path of its entry module lead out
of it.** -/
structure Alike (h h' : PluginHost) (dir : String) : Prop where
  /-- The content of the directory. -/
  content : SameContent h h' dir
  /-- What is at the declared entry, if that is elsewhere. -/
  elsewhere : ∀ entry, Entry.declared h.tree dir = .ok (some entry) → ¬ Inside dir (Text.Path.join dir entry) →
    SameAt h h' (Text.Path.join dir entry)
  /-- What importing the entry module leads to, if that is elsewhere. -/
  imported : ∀ source place, Entry.resolve h.tree dir = .ok (some source) → Import.place source = .ok place →
    ¬ Inside dir place → SameAt h h' place

theorem SameAt.contains (same : SameAt h h' path) : h.tree.contains path = h'.tree.contains path := by
  simp only [FileTree.contains, FileTree.isFile, Table.contains_eq_isSome, same.file, same.directory]

theorem SameAt.read (same : SameAt h h' path) : h.tree.read path = h'.tree.read path := by
  simp only [FileTree.read, same.file, same.directory]

/-- Names lead to a place in the directory. -/
theorem SameContent.at_join (same : SameContent h h' dir) (clean : IsClean dir) {file : String}
    (names : ∀ part ∈ Text.Path.parts file, IsName part) : SameAt h h' (Text.Path.join dir file) :=
  same _ (.inr ⟨file, Text.Path.join_of_clean clean names⟩)

theorem SameContent.declared (same : SameContent h h' dir) (clean : IsClean dir) :
    Entry.declared h.tree dir = Entry.declared h'.tree dir := by
  have package : SameAt h h' (Text.Path.join dir "package.json") := same.at_join clean (by decide)
  simp only [Entry.declared, package.contains, package.read]

/-- All places where an entry module is looked for hold the same. -/
theorem Alike.sameAt_candidate (alike : Alike h h' dir) (clean : IsClean dir) {declaration : Option String}
    (declared : Entry.declared h.tree dir = .ok declaration) :
    ∀ path ∈ (declaration.toList ++ Entry.usualPlaces).map (Text.Path.join dir), SameAt h h' path := by
  intro path here
  -- only the declared place can be out of the directory
  obtain ⟨place, listed, rfl⟩ := List.mem_map.1 here
  rcases List.mem_append.1 listed with own | usual
  · obtain rfl := Option.mem_toList.1 own
    by_cases inside : Inside dir (Text.Path.join dir place)
    · exact alike.content _ inside
    · exact alike.elsewhere place declared inside
  · have names : ∀ place ∈ Entry.usualPlaces, ∀ part ∈ Text.Path.parts place, IsName part := by decide
    exact alike.content.at_join clean (names place usual)

/-- The entry module of a directory is the same in both hosts. -/
theorem Alike.resolve (alike : Alike h h' dir) (clean : IsClean dir) :
    Entry.resolve h.tree dir = Entry.resolve h'.tree dir := by
  have declared := alike.content.declared clean
  cases found : Entry.declared h.tree dir with
  | error e =>
    rw [Entry.resolve, Entry.resolve, ← declared, found]
    rfl
  | ok declaration =>
    have contains : ∀ path ∈ (declaration.toList ++ Entry.usualPlaces).map (Text.Path.join dir),
        h.tree.contains path = h'.tree.contains path :=
      fun path here => (alike.sameAt_candidate clean found path here).contains
    rw [Entry.resolve, Entry.resolve, ← declared, found]
    exact congrArg Except.ok (List.find?_congr contains)

/-- **Both hosts find the same register function.** -/
theorem Alike.entryFunction (alike : Alike h h' dir) (clean : IsClean dir) :
    h.entryFunction dir = h'.entryFunction dir := by
  have resolved := alike.resolve clean
  cases entry : Entry.resolve h.tree dir with
  | error e => rw [PluginHost.entryFunction, PluginHost.entryFunction, ← resolved, entry]; rfl
  | ok source =>
    cases source with
    | none => rw [PluginHost.entryFunction, PluginHost.entryFunction, ← resolved, entry]; rfl
    | some source =>
      have imported : h.importModule source = h'.importModule source := by
        cases leads : Import.place source with
        | error e => rw [importModule_of_misread leads, importModule_of_misread leads]
        | ok place =>
          rw [importModule_of_place leads, importModule_of_place leads]
          by_cases inside : Inside dir place
          · exact (alike.content place inside).module
          · exact (alike.imported source place entry leads inside).module
      rw [entryFunction_of_entry entry, entryFunction_of_entry (resolved.symm.trans entry), imported]

theorem Alike.loadDirectory (alike : Alike h h' dir) (clean : IsClean dir) :
    h.loadDirectory s dir = h'.loadDirectory s dir := by
  have manifest : SameAt h h' (Text.Path.join dir Manifest.fileName) := alike.content.at_join clean isName_fileName
  simp only [PluginHost.loadDirectory, PluginHost.outcome, PluginHost.loadPlugin, Manifest.read, manifest.read,
    alike.entryFunction clean]

/-- The entry module of a directory is declared or at one of the usual places. -/
theorem exists_candidate {source : String} (entry : Entry.resolve h.tree dir = .ok (some source)) :
    ∃ file, (Entry.declared h.tree dir = .ok (some file) ∨ file ∈ Entry.usualPlaces) ∧
      source = Text.Path.join dir file := by
  rw [Entry.resolve] at entry
  cases declared : Entry.declared h.tree dir with
  | error e => rw [declared] at entry; cases entry
  | ok declaration =>
    rw [declared] at entry
    obtain ⟨file, listed, rfl⟩ := List.mem_map.1 (List.mem_of_find?_eq_some (Except.ok.inj entry))
    rcases List.mem_append.1 listed with own | usual
    · obtain rfl := Option.mem_toList.1 own
      exact ⟨file, .inl rfl, rfl⟩
    · exact ⟨file, .inr usual, rfl⟩

/-- **A directory whose entry module is in it**: its path is plain, and so is the entry that its package file declares,
if it declares one. -/
structure Enclosed (h : PluginHost) (dir : String) : Prop where
  /-- The path of the directory. -/
  plain : ∀ c ∈ dir.toList, Import.isSpecial c = false
  /-- The entry that its package file declares. -/
  declared : ∀ entry, Entry.declared h.tree dir = .ok (some entry) →
    (∀ part ∈ Text.Path.parts entry, IsName part) ∧ Import.IsPlain entry

theorem Enclosed.names {file : String} (enclosed : h.Enclosed dir)
    (candidate : Entry.declared h.tree dir = .ok (some file) ∨ file ∈ Entry.usualPlaces) :
    (∀ part ∈ Text.Path.parts file, IsName part) ∧ Import.IsPlain file := by
  rcases candidate with own | usual
  · exact enclosed.declared file own
  · have plain : ∀ file ∈ Entry.usualPlaces, (∀ part ∈ Text.Path.parts file, IsName part) ∧ Import.IsPlain file := by
      decide +kernel
    exact plain file usual

/-- **Such a directory holds all that counts.** -/
theorem SameContent.alike (same : SameContent h h' dir) (clean : IsClean dir) (enclosed : h.Enclosed dir) :
    Alike h h' dir where
  content := same
  elsewhere entry declared outside := by
    rw [Text.Path.join_of_clean clean (enclosed.declared entry declared).1] at outside
    exact absurd (.inr ⟨entry, rfl⟩) outside
  imported source place entry leads outside := by
    obtain ⟨file, candidate, rfl⟩ := exists_candidate entry
    obtain ⟨names, plain⟩ := enclosed.names candidate
    have nonempty : file ≠ "" := by
      rintro rfl
      exact (names [] (by decide)).1 rfl
    have itself := Import.place_of_plain (plain.below nonempty enclosed.plain) (clean.append names)
      fun none => by simpa using congrArg String.toList none
    rw [Text.Path.join_of_clean clean names, itself] at leads
    obtain rfl := Except.ok.inj leads
    exact absurd (.inr ⟨file, rfl⟩) outside

/-! ## One by one -/

end PluginHost

end ServiceAccess
