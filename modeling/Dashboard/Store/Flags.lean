import Dashboard.Data.KeyMap
import Dashboard.Plugin.Id

/-!
# Feature flags

Named flags that are on or off, and the experimental plugins the user opted into. A flag nobody set
is off.
-/

namespace Dashboard

open Data

structure FeatureFlags where
  flags : KeyMap Bool
  experimental : KeySet
  deriving DecidableEq

namespace FeatureFlags

def empty : FeatureFlags := ⟨.empty, .empty⟩

instance : Inhabited FeatureFlags := ⟨empty⟩

def isSet (f : FeatureFlags) (name : String) : Bool := (f.flags.get? name).getD false

def isExperimental (f : FeatureFlags) (id : PluginId) : Bool := f.experimental.contains id.text

def withFlag (f : FeatureFlags) (name : String) (value : Bool) : FeatureFlags :=
  { f with flags := f.flags.insert name value }

/-- Opts into an experimental plugin. -/
def withExperimental (f : FeatureFlags) (id : PluginId) : FeatureFlags :=
  { f with experimental := f.experimental.add id.text }

@[simp] theorem isSet_empty (name : String) : empty.isSet name = false := rfl

@[simp] theorem isSet_withFlag_self (f : FeatureFlags) (name : String) (value : Bool) :
    (f.withFlag name value).isSet name = value := by
  simp [isSet, withFlag]

end FeatureFlags

end Dashboard
