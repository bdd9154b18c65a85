import Dashboard.Config.Model
import Dashboard.Toml.Printer

/-!
# Printing the configuration

The effective configuration as a document that can be loaded again. Settings may hold values that a
document cannot: nulls, and integers beyond 64 bits with a sign.
-/

namespace Dashboard

open Data

inductive RenderError where
  | nullValue
  | integerOutOfRange
  deriving DecidableEq, Repr

namespace RenderError

def message : RenderError → String
  | nullValue => "unsupported unit type"
  | integerOutOfRange => "out-of-range value for u64 type"

end RenderError

mutual

def Json.toToml : Json → Except RenderError Toml.Value
  | .null => .error .nullValue
  | .boolean b => .ok (.boolean b)
  | .integer n => if n ≤ Int64.maxValue.toInt then .ok (.integer n) else .error .integerOutOfRange
  | .float x => .ok (.float x)
  | .string s => .ok (.string s)
  | .array items =>
    match itemsToToml items with
    | .ok items => .ok (.array items)
    | .error e => .error e
  | .object entries =>
    match entriesToToml entries with
    | .ok entries => .ok (.table entries)
    | .error e => .error e

/-- JSON values as the items of an array of a document. -/
def itemsToToml : List Json → Except RenderError (List Toml.Value)
  | [] => .ok []
  | v :: rest =>
    match v.toToml with
    | .error e => .error e
    | .ok v =>
      match itemsToToml rest with
      | .error e => .error e
      | .ok vs => .ok (v :: vs)

/-- JSON entries as the entries of a table of a document. -/
def entriesToToml : List (String × Json) → Except RenderError (List (String × Toml.Value))
  | [] => .ok []
  | (k, v) :: rest =>
    match v.toToml with
    | .error e => .error e
    | .ok v =>
      match entriesToToml rest with
      | .error e => .error e
      | .ok vs => .ok ((k, v) :: vs)

end

def stringArray (texts : List String) : Toml.Value := .array (texts.map .string)

namespace DashboardSection

def toToml (s : DashboardSection) : Toml.Value :=
  .table [("name", .string s.name), ("log_level", .string s.logLevel),
    ("container", .string s.container)]

end DashboardSection

namespace FlagsSection

def toToml (s : FlagsSection) : Toml.Value :=
  .table [("enabled_experimental_plugins", stringArray s.experimental),
    ("values", .table (s.values.entries.map fun e => (e.1, .boolean e.2)))]

end FlagsSection

namespace ActivationSection

def toToml (s : ActivationSection) : Toml.Value :=
  .table ((s.lastSelection.map fun id => ("last_selection", Toml.Value.string id)).toList
    ++ [("known_plugins", stringArray s.knownPlugins)])

end ActivationSection

namespace Config

/-- The document of a configuration, given its settings as the entries of a table. -/
def document (c : Config) (settings : Toml.Entries) : Toml.Entries :=
  [("dashboard", c.dashboard.toToml), ("flags", c.flags.toToml), ("settings", .table settings),
    ("activation", c.activation.toToml),
    ("plugins", .table [("manifests", stringArray c.manifests)])]

def toToml (c : Config) : Except RenderError Toml.Entries :=
  (entriesToToml c.settings.entries).map c.document

def render (c : Config) : Except RenderError String := c.toToml.map Toml.print

end Config

end Dashboard
