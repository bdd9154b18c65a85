/-!
# Plugin identifiers

Identifiers are persisted with the user's selection, so they are compared as exact texts.
-/

namespace Dashboard

structure PluginId where
  text : String
  deriving DecidableEq, Repr, Inhabited

instance : ToString PluginId := ⟨PluginId.text⟩

end Dashboard
