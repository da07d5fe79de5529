import ServiceAccess.Boot
import ServiceAccess.Proofs.Registry.Winners

/-! # The types of an assembled registry

A registry is assembled from candidates in order: the built-in types, if they are wanted, then the types that
plugins contribute. Many of them may share an identifier, and many may have an inconsistent description.

* **`contributions`**: the types that plugins contribute. **`complaints`** are what is written about those that lose.
* **`Assembled`**: the registry of the winners. **`assembled_of_load`**: whatever the built-in types work with
  and whatever plugins are loaded, this is what is assembled. -/

namespace ServiceAccess

namespace Assembly

open Registry

variable {ι : Type}

/-! ## The types of plugins -/

/-- The types that plugins contribute, each with its plugin, in order. -/
def contributions (plugins : List LoadedPlugin) : List (LoadedPlugin × ConnectorType) :=
  plugins.flatMap fun plugin => plugin.types.map fun type => (plugin, type)

/-- What is written about a type of a plugin that is refused. -/
def complaint (plugin : LoadedPlugin) (type : ConnectorType) (failure : Failure) : LoadEvent :=
  .log ⟨.error, "Plugin \"" ++ plugin.id ++ "\" could not register connector type \"" ++ type.spec.id
    ++ "\": " ++ failure.describe⟩

/-- What is written about the types of plugins that are refused, one line for each of them. -/
def complaints (earlier : List ConnectorType) : List (LoadedPlugin × ConnectorType) → List LoadEvent
  | [] => []
  | (plugin, type) :: rest =>
    ((refusal? earlier type).map (complaint plugin type)).toList ++ complaints (earlier ++ [type]) rest

/-- Plugins register their types one after another. -/
theorem foldl_contributeAll (state : Registry ι × List LoadEvent) (plugins : List LoadedPlugin) :
    plugins.foldl contributeAll state
      = (contributions plugins).foldl (fun state c => contribute c.1 state c.2) state := by
  rw [contributions, List.foldl_flatMap]
  simp only [List.foldl_map]
  rfl

/-- The next type of a plugin: the registry is what the call makes of it, and a refusal is complained of. -/
theorem contribute_eq {r : Registry ι} {l : List ConnectorType} (h : r.HoldsWinners l) (events : List LoadEvent)
    (plugin : LoadedPlugin) (type : ConnectorType) : contribute plugin (r, events) type =
      (((Call.register type).run r).2, events ++ ((refusal? l type).map (complaint plugin type)).toList) := by
  have outcome := h.outcome_register type
  rw [contribute]
  generalize (Call.register type).run r = called at outcome ⊢
  obtain ⟨result, r'⟩ := called
  cases refused : refusal? l type with
  | some failure =>
    obtain rfl : result = .error failure := outcome.trans (by rw [refused]; rfl)
    rfl
  | none =>
    obtain rfl : result = .ok () := outcome.trans (by rw [refused]; rfl)
    simp

/-- **The contributions of plugins** leave a registry of the winners, and a line for each of those that lose. -/
theorem foldl_contribute {r : Registry ι} {l : List ConnectorType} (h : r.HoldsWinners l)
    (events : List LoadEvent) (cs : List (LoadedPlugin × ConnectorType)) :
    ∃ r' : Registry ι, r'.HoldsWinners (l ++ cs.map Prod.snd) ∧
      cs.foldl (fun state c => contribute c.1 state c.2) (r, events)
        = (r', events ++ complaints l cs) := by
  induction cs generalizing r l events with
  | nil => exact ⟨r, by simpa using h, by simp [complaints]⟩
  | cons c cs ih =>
    obtain ⟨plugin, type⟩ := c
    obtain ⟨r', holds, same⟩ := ih (h.register type) (events ++ ((refusal? l type).map (complaint plugin type)).toList)
    refine ⟨r', by simpa using holds, ?_⟩
    rw [List.foldl_cons, contribute_eq h, complaints, ← List.append_assoc]
    exact same

/-- Types that all win are registered, all of them. -/
theorem foldlM_register {r : Registry ι} {l : List ConnectorType} (h : r.HoldsWinners l)
    (types : List ConnectorType)
    (win : ∀ before type after, types = before ++ type :: after → Wins (l ++ before) type) :
    ∃ r' : Registry ι, types.foldlM Registry.register r = .ok r' ∧ r'.HoldsWinners (l ++ types) := by
  induction types generalizing r l with
  | nil => exact ⟨r, rfl, by simpa using h⟩
  | cons type types ih =>
    have first : Wins l type := by simpa using win [] type types rfl
    have taken : r.register type = .ok ((Call.register type).run r).2 := by
      have outcome := h.outcome_register type
      rw [refusal?_eq_none_iff.2 first] at outcome
      rw [Registry.register, Call.result_eq, outcome]
      rfl
    obtain ⟨r', all, holds⟩ := ih (h.register type) fun before t after parts => by
      simpa using win (type :: before) t after (by rw [parts]; rfl)
    refine ⟨r', ?_, by simpa using holds⟩
    rw [List.foldlM_cons, taken]
    exact all

/-! ## Assembled registries -/

/-- **A registry assembled from candidates**: the built-in types, and then the types of the loaded plugins. -/
structure Assembled (a : Assembly ι) (builtins : List ConnectorType) (report : LoadReport) : Prop where
  /-- The plugins are those that have been loaded. -/
  plugins : a.plugins = report.plugins
  /-- An identifier means the first candidate for it. -/
  found : ∀ id, a.registry.find? id
    = (builtins ++ (contributions report.plugins).map Prod.snd).find? fun t => CandidateFor id t
  /-- The types are the winners, in order. -/
  listed : a.registry.list = winners [] (builtins ++ (contributions report.plugins).map Prod.snd)
  /-- Every type of a plugin that loses is complained of in one line, and nothing else is. -/
  reported : a.events = report.events ++ complaints builtins (contributions report.plugins)
  /-- No type that loses hinders another one. -/
  unhindered : ∀ l type m, builtins ++ (contributions report.plugins).map Prod.snd = l ++ type :: m →
    ¬ Wins l type → a.registry.list = winners [] (l ++ m)

/-- The built-in types are consistent, and their identifiers differ. -/
theorem wins_builtins (b : Builtins) (before : List ConnectorType) (type : ConnectorType)
    (after : List ConnectorType) (parts : b.types = before ++ type :: after) : Wins before type := by
  have docker : Consistent (Docker.connectorType b.daemon b.binary)
      (Docker.connectorType b.daemon b.binary).spec.resourceTypes := fault?_eq_none_iff.1 rfl
  have cloud : Consistent (Cloud.connectorType b.interface)
      (Cloud.connectorType b.interface).spec.resourceTypes := fault?_eq_none_iff.1 rfl
  rw [Builtins.types] at parts
  match before, parts with
  | [], parts =>
    obtain ⟨rfl, -⟩ := List.cons.inj parts
    exact ⟨docker, by simp⟩
  | [first], parts =>
    simp only [List.cons_append, List.nil_append, List.cons.injEq] at parts
    obtain ⟨rfl, rfl, -⟩ := parts
    refine ⟨cloud, fun t here candidate => ?_⟩
    obtain rfl := List.mem_singleton.1 here
    exact absurd candidate.1 (show "docker" ≠ "aws" by decide)
  | _ :: _ :: _, parts => simp at parts

/-- **The first consistent type of each identifier is kept.** Whatever the built-in types work with, if they are
wanted, and whatever plugins are loaded: what is assembled is a registry of the winners, with a line for every
type of a plugin that loses. It can only fail when loading does. -/
theorem assembled_of_load (builtins : Option Builtins) (paths : List String) (selection : PluginSelection)
    (host : PluginHost) :
    match host.load selection paths with
    | .ok report => ∃ a : Assembly ι,
        make ⟨builtins.elim [] Builtins.types, paths, selection⟩ host = .ok a ∧
          a.Assembled (builtins.elim [] Builtins.types) report
    | .error failure =>
        (make ⟨builtins.elim [] Builtins.types, paths, selection⟩ host : Except Failure (Assembly ι))
          = .error failure := by
  generalize known : builtins.elim [] Builtins.types = types
  have win : ∀ before type after, types = before ++ type :: after → Wins ([] ++ before) type := by
    intro before type after parts
    rw [List.nil_append]
    cases builtins with
    | none => simp [← known] at parts
    | some b => exact wins_builtins b before type after (known.trans parts)
  obtain ⟨r, registered, holds⟩ := foldlM_register (ι := ι) holdsWinners_empty types win
  rw [List.nil_append] at holds
  cases loaded : host.load selection paths with
  | error failure =>
    simp only [make, registered, loaded]
    rfl
  | ok report =>
    obtain ⟨r', holds', same⟩ := foldl_contribute holds report.events (contributions report.plugins)
    refine ⟨⟨r', report.plugins, report.events ++ complaints types (contributions report.plugins)⟩, ?_,
      rfl, holds'.find?_eq, holds'.list_eq, rfl, fun l type m parts loses => ?_⟩
    · simp only [make, registered, loaded, foldl_contributeAll, same, bind, Except.bind]
      rfl
    · rw [holds'.list_eq, parts, winners_of_not_wins loses]

end Assembly

end ServiceAccess
