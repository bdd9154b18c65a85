import Dashboard.Plugin.MountPoint
import Dashboard.Plugin.Predicate

/-!
# Plugin descriptors

What a plugin registers about itself. Without further refinement a plugin mounts nothing of its own
and is always enabled.
-/

namespace Dashboard

structure Descriptor where
  id : PluginId
  displayName : String
  mount : MountPoint := .none
  predicate : Predicate := .always

namespace Descriptor

/-- Whether the plugin is available under the given flags and settings. -/
def isEnabled (d : Descriptor) (flags : FeatureFlags) (settings : Settings) : Bool :=
  d.predicate.eval flags settings

end Descriptor

end Dashboard
