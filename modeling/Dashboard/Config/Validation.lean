import Dashboard.Config.Model
import Dashboard.Text.Ascii
import Dashboard.Text.Blank

/-!
# Rules for configurations

A configuration that could be read may still make no sense. Every violation of a rule is reported,
not only the first.
-/

namespace Dashboard

open Data

/-- What is wrong with a configuration. -/
inductive Violation where
  | unknownLogLevel (level : String)
  | emptyContainer
  | emptyFlagName
  | emptyExperimentalId
  | emptySelection
  | emptyKnownId
  | repeatedKnownId (id : String)
  | emptyManifestPath
  deriving DecidableEq, Repr

namespace Violation

def logLevels : List String := ["trace", "debug", "info", "warn", "error"]

def message : Violation → String
  | unknownLogLevel level =>
    "dashboard.log_level `" ++ level ++ "` is not one of " ++ ", ".intercalate logLevels
  | emptyContainer => "dashboard.container must not be empty"
  | emptyFlagName => "flags.values must not contain an empty flag name"
  | emptyExperimentalId => "flags.enabled_experimental_plugins must not contain empty ids"
  | emptySelection => "activation.last_selection must not be empty when set"
  | emptyKnownId => "activation.known_plugins must not contain empty ids"
  | repeatedKnownId id => "activation.known_plugins lists `" ++ id ++ "` more than once"
  | emptyManifestPath => "plugins.manifests must not contain empty paths"

end Violation

namespace Config

/-- Whether the log level is one of the known ones, in any case and with blanks around it. -/
def hasKnownLogLevel (c : Config) : Bool :=
  Violation.logLevels.contains (Text.lowerAscii (Text.trimmed c.dashboard.logLevel))

/-- What is wrong with a list of known identifiers, given those that came before: blank ones, and
others that came before. -/
def knownIdViolations (seen : List String) : List String → List Violation
  | [] => []
  | id :: rest =>
    if Text.blank id then .emptyKnownId :: knownIdViolations seen rest
    else if seen.contains id then .repeatedKnownId id :: knownIdViolations seen rest
    else knownIdViolations (id :: seen) rest

def violationIf (condition : Bool) (v : Violation) : List Violation :=
  if condition then [v] else []

def violations (c : Config) : List Violation :=
  violationIf (!c.hasKnownLogLevel) (.unknownLogLevel c.dashboard.logLevel)
    ++ violationIf (Text.blank c.dashboard.container) .emptyContainer
    ++ violationIf (c.flags.values.keys.any Text.blank) .emptyFlagName
    ++ violationIf (c.flags.experimental.any Text.blank) .emptyExperimentalId
    ++ violationIf (c.activation.lastSelection.any Text.blank) .emptySelection
    ++ knownIdViolations [] c.activation.knownPlugins
    ++ violationIf (c.manifests.any Text.blank) .emptyManifestPath

end Config

end Dashboard
