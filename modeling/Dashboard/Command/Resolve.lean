import Dashboard.Command.Flag
import Dashboard.Config.Model
import Dashboard.Container.Basic
import Dashboard.Host.Headless
import Dashboard.Json.Printer
import Dashboard.Store.Memory

/-!
# Resolving the active plugin

The whole pipeline once, without a renderer: a store is filled from the configuration, the container
mounts what resolves, a selection is applied as if the user had picked the plugin, and what ended up
mounted is reported.
-/

namespace Dashboard

/-- What to resolve beyond what the configuration says. -/
structure ResolveOptions where
  select : Option String
  flags : List String

/-- What the container ended up showing. -/
structure ResolveOutcome where
  plugin : Option PluginId
  displayName : Option String
  mount : Option MountPoint
  generation : Nat
  error : Option MountError
  deriving DecidableEq

/-- Why nothing was resolved. -/
inductive ResolveError where
  | flag (error : FlagError)
  | unknownPlugin (id : String)
  deriving DecidableEq, Repr

namespace ResolveError

def toPluginError : ResolveError → PluginError
  | flag e => .config e.reason
  | unknownPlugin id => .config ("unknown plugin `" ++ id ++ "`")

end ResolveError

namespace Container

/-- Delivers the store's state to the container until nothing is left in flight. Every mount in
flight settles in a round of its own; one more mount may be started, and the last round finds
nothing. -/
def drive (c : Container Headless) (order : Flights.Order) (store : MemoryStore) :
    Container Headless × MemoryStore :=
  driveRounds order MemoryStore.snapshot MemoryStore.dispatchAll (c.flights.size + 2) c store

end Container

namespace Config

/-- The state to resolve: that of the configuration with the overrides of flags. -/
def resolveSnapshot (c : Config) (r : Registry) (flags : List String) :
    Except FlagError Snapshot :=
  let s := c.initialSnapshot r.ids
  match s.flags.override flags with
  | .error e => .error e
  | .ok flags => .ok { s with flags := flags }

/-- Drives a container from a state and, if there is a selection, from the state after it. -/
def driveSelection (c : Config) (r : Registry) (s : Snapshot) (select : Option PluginId)
    (order : Flights.Order) : Container Headless :=
  let (container, store) :=
    (Container.new r Headless.empty c.dashboard.container).drive order (.ofSnapshot s)
  match select with
  | none => container
  | some id => (container.drive order (store.dispatch (.selected id))).1

def outcomeOf (r : Registry) (container : Container Headless) : ResolveOutcome :=
  let plugin := container.phase.plugin?
  let descriptor := plugin.bind r.get?
  { plugin := plugin
    displayName := descriptor.map (·.displayName)
    mount := descriptor.map (·.mount)
    generation := container.generation
    error := container.lastError }

/-- Resolves and mounts the active plugin once. Overrides are checked before the selection. -/
def resolve (c : Config) (r : Registry) (o : ResolveOptions) (order : Flights.Order) :
    Except ResolveError ResolveOutcome :=
  match c.resolveSnapshot r o.flags with
  | .error e => .error (.flag e)
  | .ok s =>
    match o.select with
    | none => .ok (outcomeOf r (c.driveSelection r s none order))
    | some id =>
      if r.contains ⟨id⟩ then .ok (outcomeOf r (c.driveSelection r s (some ⟨id⟩) order))
      else .error (.unknownPlugin id)

end Config

namespace ResolveOutcome

def json (o : ResolveOutcome) : String :=
  (Json.object
    [("plugin_id", .ofOption (o.plugin.map PluginId.text)),
     ("display_name", .ofOption o.displayName),
     ("mount", .ofOption (o.mount.map MountPoint.name)),
     ("generation", .integer o.generation),
     ("error", .ofOption (o.error.map MountError.text))]).pretty ++ "\n"

def text (o : ResolveOutcome) : String :=
  match o.plugin, o.displayName, o.mount with
  | some id, some name, some mount => id.text ++ "\t" ++ name ++ "\t" ++ mount.name ++ "\n"
  | _, _, _ =>
    match o.error with
    | some e => "(empty) " ++ e.text ++ "\n"
    | none => "(no active plugin)\n"

end ResolveOutcome

end Dashboard
