import Dashboard.Plugin.Id

/-!
# Errors

What can go wrong while plugins are registered, described, configured and mounted, and how it is
worded.
-/

namespace Dashboard

/-- The rendering unit of a plugin could not be attached. -/
structure MountError where
  plugin : PluginId
  message : String
  /-- What the rendering environment reported underneath. -/
  source : Option String
  deriving DecidableEq, Repr, Inhabited

namespace MountError

/-- A failure without an underlying cause. -/
def of (plugin : PluginId) (message : String) : MountError := ⟨plugin, message, none⟩

def text (e : MountError) : String :=
  "failed to mount plugin `" ++ e.plugin.text ++ "`: " ++ e.message

end MountError

inductive PluginError where
  /-- A plugin with this identifier is already registered. -/
  | duplicateId (id : PluginId)
  | mount (error : MountError)
  | manifest (reason : String)
  | config (reason : String)
  | internal (reason : String)
  deriving DecidableEq, Repr

namespace PluginError

def message : PluginError → String
  | duplicateId id => "plugin `" ++ id.text ++ "` is already registered"
  | mount e => e.text
  | manifest reason => "invalid plugin manifest: " ++ reason
  | config reason => "configuration error: " ++ reason
  | internal reason => "internal error: " ++ reason

/-- The underlying cause. A mount failure stands for itself, so its cause is the one below it. -/
def source : PluginError → Option String
  | mount e => e.source
  | _ => none

end PluginError

end Dashboard
