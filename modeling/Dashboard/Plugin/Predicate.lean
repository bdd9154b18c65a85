import Dashboard.Store.Flags
import Dashboard.Store.Settings
import Dashboard.Text.Quoted

/-!
# Enablement predicates

A predicate decides from the flags and settings whether a plugin is available. Its label is what a
listing gives as the reason why a plugin is disabled.
-/

namespace Dashboard

/-- What must hold for a plugin to be available. -/
inductive Predicate where
  | always
  | never
  /-- The feature flag is on. -/
  | flag (name : String)
  /-- The user opted into the experimental plugin. -/
  | experimental (id : PluginId)
  /-- The setting is exactly `true`. -/
  | setting (key : String)
  | and (p q : Predicate)
  | or (p q : Predicate)
  | not (p : Predicate)
  /-- Any other test, under a label of its own. -/
  | custom (label : String) (test : FeatureFlags → Settings → Bool)

instance : Inhabited Predicate := ⟨.always⟩

namespace Predicate

def eval (flags : FeatureFlags) (settings : Settings) : Predicate → Bool
  | always => true
  | never => false
  | flag name => flags.isSet name
  | experimental id => flags.isExperimental id
  | setting key => settings.isOn key
  | and p q => p.eval flags settings && q.eval flags settings
  | or p q => p.eval flags settings || q.eval flags settings
  | not p => !p.eval flags settings
  | custom _ test => test flags settings

def label : Predicate → String
  | always => "always"
  | never => "never"
  | flag name => "flag:" ++ name
  | experimental id => "experimental:" ++ id.text
  | setting key => "setting:" ++ key
  | and p q => p.label ++ " & " ++ q.label
  | or p q => "(" ++ p.label ++ " | " ++ q.label ++ ")"
  | not p => "!" ++ p.label
  | custom text _ => text

def describe (p : Predicate) : String := "EnablePredicate(" ++ Text.quoted p.label ++ ")"

/-- At least `count` flags are on. -/
def minFlags (label : String) (count : Nat) : Predicate :=
  custom label fun flags _ => count ≤ (flags.flags.entries.filter (·.2)).length

end Predicate

end Dashboard
