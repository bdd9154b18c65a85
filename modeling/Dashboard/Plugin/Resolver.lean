import Dashboard.Plugin.Registry
import Dashboard.Store.Snapshot

/-!
# The activation resolver

Which plugin should be showing. A plugin is eligible when it is registered, known and enabled. An
eligible selection wins; otherwise the first eligible plugin in registration order does; otherwise
nothing is shown.
-/

namespace Dashboard

namespace Registry

/-- The known plugins that are registered and enabled, in registration order. -/
def eligible (r : Registry) (known : List PluginId) (flags : FeatureFlags) (settings : Settings) :
    List PluginId :=
  let isEligible (d : Descriptor) := known.contains d.id && d.isEnabled flags settings
  (r.descriptors.filter isEligible).map Descriptor.id

def resolve (r : Registry) (known : List PluginId) (flags : FeatureFlags) (settings : Settings)
    (selection : Option PluginId) : Option PluginId :=
  let candidates := r.eligible known flags settings
  match selection with
  | some id => if candidates.contains id then some id else candidates.head?
  | none => candidates.head?

/-- The plugin that should be active in a given state. -/
def target (r : Registry) (s : Snapshot) : Option PluginId :=
  r.resolve s.activation.known s.flags s.settings s.activation.selection

end Registry

end Dashboard
