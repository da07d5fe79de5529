import ServiceAccess.Plugin.Loader
import ServiceAccess.Provider.Cloud.Basic
import ServiceAccess.Provider.Docker
import ServiceAccess.Registry

/-! # Assembling a registry

A registry with the built-in connector types and the types of plugins. Plugin types are registered in the
order of their contribution; a type that cannot be registered is reported and skipped. -/

namespace ServiceAccess

/-- What the built-in connector types work with. -/
structure Builtins where
  /-- The container daemon. -/
  daemon : String
  /-- The command that logs in to a container registry. -/
  binary : String
  /-- The interface to the cloud. -/
  interface : Cloud.Interface

/-- The built-in connector types. -/
def Builtins.types (b : Builtins) : List ConnectorType :=
  [Docker.connectorType b.daemon b.binary, Cloud.connectorType b.interface]

/-- What a registry is assembled from. -/
structure BootOptions where
  /-- The built-in connector types. -/
  builtins : List ConnectorType
  /-- The search paths of plugins. -/
  pluginPaths : List String
  /-- Which plugins are wanted. -/
  selection : PluginSelection

/-- An assembled registry. -/
structure Assembly (ι : Type) where
  /-- The registry. -/
  registry : Registry ι
  /-- The loaded plugins. -/
  plugins : List LoadedPlugin
  /-- What happened meanwhile. -/
  events : List LoadEvent

namespace Assembly

variable {ι : Type}

/-- Register one type of a plugin, or report why not. The registry stays as the call leaves it. -/
def contribute (plugin : LoadedPlugin) (state : Registry ι × List LoadEvent) (type : ConnectorType) :
    Registry ι × List LoadEvent :=
  match (Registry.Call.register type).run state.1 with
  | (.ok (), registry) => (registry, state.2)
  | (.error failure, registry) =>
    (registry, state.2 ++ [.log ⟨.error, "Plugin \"" ++ plugin.id
      ++ "\" could not register connector type \"" ++ type.spec.id ++ "\": " ++ failure.describe⟩])

/-- Register the types of one plugin. -/
def contributeAll (state : Registry ι × List LoadEvent) (plugin : LoadedPlugin) :
    Registry ι × List LoadEvent :=
  plugin.types.foldl (contribute plugin) state

/-- Assemble a registry: the built-in types first, then the plugins. -/
def make (o : BootOptions) (host : PluginHost) : Except Failure (Assembly ι) := do
  let registry ← o.builtins.foldlM Registry.register Registry.empty
  let report ← host.load o.selection o.pluginPaths
  let (registry, events) := report.plugins.foldl contributeAll (registry, report.events)
  return ⟨registry, report.plugins, events⟩

end Assembly

end ServiceAccess
