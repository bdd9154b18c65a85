import Dashboard.Store.Flags
import Dashboard.Store.Settings

/-!
# The observed state and its actions

The part of the application's state that decides what is mounted: which plugins are known, which one
is showing, which one the user chose last, the flags and the settings. Everything that changes it is
an action, and `Snapshot.reduce` says how.
-/

namespace Dashboard

/-- Which plugins exist for this session and which one is showing. -/
structure Activation where
  /-- The plugins reported as available, in listing order. -/
  known : List PluginId
  /-- The plugin confirmed as mounted. -/
  active : Option PluginId
  /-- The plugin the user chose last. -/
  selection : Option PluginId
  deriving DecidableEq, Inhabited

/-- What decides which plugin is mounted. -/
structure Snapshot where
  activation : Activation
  flags : FeatureFlags
  settings : Settings
  deriving Inhabited

/-- The changes of state. -/
inductive Action where
  /-- A plugin was mounted: it becomes the active plugin and the persisted selection. -/
  | activated (id : PluginId)
  /-- The user picked a plugin. -/
  | selected (id : PluginId)
  /-- The listing of available plugins arrived. -/
  | listed (ids : List PluginId)
  | flagsChanged (flags : FeatureFlags)
  | settingsChanged (settings : Settings)

namespace Snapshot

def same (a b : Snapshot) : Bool :=
  a.activation == b.activation && a.flags == b.flags && a.settings.same b.settings

/-- The state after an action, and whether anything changed. A part that already has its new value
is left alone. -/
def reduce (s : Snapshot) : Action → Snapshot × Bool
  | .activated id =>
    ({ s with activation := { s.activation with active := some id, selection := some id } },
      s.activation.active != some id || s.activation.selection != some id)
  | .selected id =>
    if s.activation.selection = some id then (s, false)
    else ({ s with activation := { s.activation with selection := some id } }, true)
  | .listed ids =>
    if s.activation.known = ids then (s, false)
    else ({ s with activation := { s.activation with known := ids } }, true)
  | .flagsChanged flags =>
    if s.flags = flags then (s, false) else ({ s with flags := flags }, true)
  | .settingsChanged settings =>
    if s.settings.same settings then (s, false) else ({ s with settings := settings }, true)

def apply (s : Snapshot) (a : Action) : Snapshot := (s.reduce a).1

def changes (s : Snapshot) (a : Action) : Bool := (s.reduce a).2

end Snapshot

end Dashboard
