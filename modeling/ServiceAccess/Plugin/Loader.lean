import ServiceAccess.Logger
import ServiceAccess.Plugin.Entry
import ServiceAccess.Plugin.Import
import ServiceAccess.Plugin.Module
import ServiceAccess.Text.Utf16

/-! # Loading plugins

Plugins are the directories with a manifest directly inside the search paths. Each one has one outcome: it is
loaded, disabled, left out or failed. A failed plugin contributes nothing, and what it has raised is reported;
where that cannot be described, loading itself fails. -/

namespace ServiceAccess

/-- Where plugins are loaded from: the file tree, and what importing a file gives. -/
structure PluginHost where
  /-- The files. -/
  tree : FileTree
  /-- The module of a file, or what running it raises. -/
  moduleAt : String → Except Raised PluginModule

/-- Which plugins are wanted. -/
structure PluginSelection where
  /-- The only plugins to load, if these are listed. -/
  enabled : Option (List String)
  /-- The plugins not to load. -/
  disabled : List String

/-- A loaded plugin. -/
structure LoadedPlugin where
  /-- Its identifier. -/
  id : String
  /-- Its name. -/
  name : String
  /-- What it is for. -/
  description : Option String
  /-- Its version. -/
  version : Option String
  /-- The path of its entry module. -/
  source : String
  /-- The connector types that it contributes. -/
  types : List ConnectorType

/-- What becomes of a plugin directory. -/
inductive PluginOutcome where
  /-- The plugin is loaded. -/
  | loaded (plugin : LoadedPlugin)
  /-- The plugin is disabled. -/
  | disabled (id : String)
  /-- The plugin is not among those to load. -/
  | leftOut
  /-- The plugin failed. -/
  | failed (raised : Raised)

/-- What happens while plugins are loaded. -/
inductive LoadEvent where
  /-- The register function of a plugin is called. -/
  | called (id name : String)
  /-- A log line is written. -/
  | log (line : LogLine)
deriving DecidableEq

/-- Loaded plugins, and what happened meanwhile. -/
structure LoadReport where
  /-- The plugins. -/
  plugins : List LoadedPlugin
  /-- What happened. -/
  events : List LoadEvent

namespace LoadReport

/-- A report of nothing. -/
def empty : LoadReport := ⟨[], []⟩

/-- One report after another. -/
def append (a b : LoadReport) : LoadReport := ⟨a.plugins ++ b.plugins, a.events ++ b.events⟩

instance : Append LoadReport := ⟨append⟩

/-- A report of one log line. -/
def line (level : Level) (message : String) : LoadReport := ⟨[], [.log ⟨level, message⟩]⟩

end LoadReport

/-- The name under which a plugin registers. -/
def Manifest.displayName (m : Manifest) : String := m.name.getD m.id

namespace PluginHost

/-- Import a module by its path: the module of the file to which that leads. -/
def importModule (h : PluginHost) (path : String) : Except Raised PluginModule := do
  h.moduleAt (← (Import.place path).mapError .failure)

/-- The path of the entry module of a plugin directory, and its register function. -/
def entryFunction (h : PluginHost) (dir : String) : Except Raised (String × RegisterFunction) := do
  match ← (Entry.resolve h.tree dir).mapError .failure with
  | none => .error (.failure (.service (.plain ("No entry module found in " ++ dir))))
  | some source =>
    let loaded ← h.importModule source
    match loaded.registerFunction? with
    | none => .error (.failure (.service (.plain (source ++ " exports no register function"))))
    | some f => return (source, f)

/-- Load the plugin of a directory. -/
def loadPlugin (h : PluginHost) (dir : String) (m : Manifest) : PluginOutcome × List LoadEvent :=
  match h.entryFunction dir with
  | .error raised => (.failed raised, [])
  | .ok (source, f) =>
    let call := [LoadEvent.called m.id m.displayName]
    match f.run with
    | .error raised => (.failed raised, call)
    | .ok types => (.loaded ⟨m.id, m.displayName, m.description, m.version, source, types⟩, call)

/-- What becomes of a plugin directory, and which register function is called. -/
def outcome (h : PluginHost) (s : PluginSelection) (dir : String) : PluginOutcome × List LoadEvent :=
  match Manifest.read h.tree dir with
  | .error failure => (.failed (.failure failure), [])
  | .ok m =>
    if s.disabled.contains m.id then (.disabled m.id, [])
    else if (s.enabled.map fun ids => !ids.contains m.id).getD false then (.leftOut, [])
    else h.loadPlugin dir m

/-- What an outcome contributes to the report. -/
def reportOf (dir : String) : PluginOutcome → Except Failure LoadReport
  | .loaded plugin =>
    .ok ⟨[plugin], [.log ⟨.info, "Loaded plugin: " ++ plugin.id ++ " (" ++ toString plugin.types.length
      ++ " connector types)"⟩]⟩
  | .disabled id => .ok (.line .info ("Plugin \"" ++ id ++ "\" is disabled, skipping."))
  | .leftOut => .ok .empty
  | .failed raised => do
    return .line .error ("Failed to load plugin from " ++ dir ++ ": " ++ (← raised.describe))

/-- Load the plugin of a directory and report. -/
def loadDirectory (h : PluginHost) (s : PluginSelection) (dir : String) : Except Failure LoadReport :=
  let (result, calls) := h.outcome s dir
  (reportOf dir result).map (⟨[], calls⟩ ++ ·)

/-- The plugin directories of a search path, sorted by code units. -/
def candidates (h : PluginHost) (path : String) : List String :=
  Text.sort ((h.tree.subdirectories path).filter fun dir =>
    h.tree.contains (Text.Path.join dir Manifest.fileName))

/-- Load the plugins of directories, one after another. -/
def loadDirectories (h : PluginHost) (s : PluginSelection) : List String → Except Failure LoadReport
  | [] => .ok .empty
  | dir :: rest => do
    let first ← h.loadDirectory s dir
    let others ← h.loadDirectories s rest
    return first ++ others

/-- Load the plugins of a search path. A missing path is skipped with a warning; a file is no search
path. -/
def loadPath (h : PluginHost) (s : PluginSelection) (path : String) : Except Failure LoadReport :=
  let path := Text.Path.resolve path
  if !h.tree.contains path then
    .ok (.line .warn ("Plugin search path " ++ path ++ " does not exist, skipping."))
  else if h.tree.isFile path then
    .error (.service (.plain ("ENOTDIR: not a directory, scandir '" ++ path ++ "'")))
  else h.loadDirectories s (h.candidates path)

/-- Load the plugins of search paths, one path after another. -/
def load (h : PluginHost) (s : PluginSelection) : List String → Except Failure LoadReport
  | [] => .ok .empty
  | path :: rest => do
    let first ← h.loadPath s path
    let others ← h.load s rest
    return first ++ others

end PluginHost

end ServiceAccess
