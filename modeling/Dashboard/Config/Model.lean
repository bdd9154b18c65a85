import Dashboard.Data.Decode
import Dashboard.Store.Snapshot

/-!
# The configuration

What the dashboard starts with: its name and log level, the region it mounts into, flags, settings,
the initial activation and the manifests to load. Every part has a default, and every key outside
the settings must be a known one.
-/

namespace Dashboard

open Data

/-- The identity of the dashboard and its log level. -/
structure DashboardSection where
  name : String
  logLevel : String
  /-- The region that plugins are mounted into. -/
  container : String
  deriving DecidableEq, Repr

/-- The flags the store starts with. -/
structure FlagsSection where
  experimental : List String
  values : KeyMap Bool
  deriving DecidableEq

/-- The activation the store starts with. -/
structure ActivationSection where
  lastSelection : Option String
  /-- The plugins reported as available; none named means all registered ones. -/
  knownPlugins : List String
  deriving DecidableEq, Repr

structure Config where
  dashboard : DashboardSection
  flags : FlagsSection
  settings : KeyMap Json
  activation : ActivationSection
  /-- Paths of manifests to load. -/
  manifests : List String

namespace DashboardSection

def initial : DashboardSection := ⟨"plugboard", "info", "plugins-container"⟩

def layout {σ : Type} [Readable σ] : Layout σ DashboardSection where
  name := "DashboardConfig"
  fields :=
    [.of "name" .defaulted Decoder.text fun s v => { s with name := v },
     .of "log_level" .defaulted Decoder.text fun s v => { s with logLevel := v },
     .of "container" .defaulted Decoder.text fun s v => { s with container := v }]
  strict := true
  initial := initial

def toJson (s : DashboardSection) : Json :=
  .object [("container", .string s.container), ("log_level", .string s.logLevel),
    ("name", .string s.name)]

end DashboardSection

namespace FlagsSection

def initial : FlagsSection := ⟨[], .empty⟩

def layout {σ : Type} [Readable σ] : Layout σ FlagsSection where
  name := "FlagsConfig"
  fields :=
    [.of "enabled_experimental_plugins" .defaulted (Decoder.list Decoder.text)
       fun s v => { s with experimental := v },
     .of "values" .defaulted (Decoder.keyMap Decoder.boolean) fun s v => { s with values := v }]
  strict := true
  initial := initial

def toJson (s : FlagsSection) : Json :=
  .object [("enabled_experimental_plugins", .array (s.experimental.map .string)),
    ("values", .ofMap .boolean s.values)]

end FlagsSection

namespace ActivationSection

def initial : ActivationSection := ⟨none, []⟩

def layout {σ : Type} [Readable σ] : Layout σ ActivationSection where
  name := "ActivationConfig"
  fields :=
    [.of "last_selection" .defaulted (Decoder.optional Decoder.text)
       fun s v => { s with lastSelection := v },
     .of "known_plugins" .defaulted (Decoder.list Decoder.text)
       fun s v => { s with knownPlugins := v }]
  strict := true
  initial := initial

def toJson (s : ActivationSection) : Json :=
  .object [("known_plugins", .array (s.knownPlugins.map .string)),
    ("last_selection", .ofOption s.lastSelection)]

end ActivationSection

def manifestsLayout {σ : Type} [Readable σ] : Layout σ (List String) where
  name := "PluginsConfig"
  fields := [.of "manifests" .defaulted (Decoder.list Decoder.text) fun _ v => v]
  strict := true
  initial := []

namespace Config

def initial : Config := ⟨.initial, .initial, .empty, .initial, []⟩

instance : Inhabited Config := ⟨initial⟩

def layout {σ : Type} [Readable σ] : Layout σ Config where
  name := "PlugboardConfig"
  fields :=
    [.of "dashboard" .defaulted DashboardSection.layout.decode
       fun c v => { c with dashboard := v },
     .of "flags" .defaulted FlagsSection.layout.decode fun c v => { c with flags := v },
     .of "settings" .defaulted (Decoder.keyMap Decoder.json) fun c v => { c with settings := v },
     .of "activation" .defaulted ActivationSection.layout.decode
       fun c v => { c with activation := v },
     .of "plugins" .defaulted manifestsLayout.decode fun c v => { c with manifests := v }]
  strict := true
  initial := initial

def decoder {σ : Type} [Readable σ] : Decoder σ Config := layout.decode

def toJson (c : Config) : Json :=
  .object
    [("activation", c.activation.toJson), ("dashboard", c.dashboard.toJson),
     ("flags", c.flags.toJson),
     ("plugins", .object [("manifests", .array (c.manifests.map .string))]),
     ("settings", .ofMap id c.settings)]

/-- The flags the store starts with. -/
def featureFlags (c : Config) : FeatureFlags :=
  ⟨c.flags.values, KeySet.ofKeys c.flags.experimental⟩

/-- The settings the store starts with. -/
def userSettings (c : Config) : Settings := ⟨c.settings⟩

/-- The plugins known from the start: those the configuration names, or all registered ones. -/
def knownPlugins (c : Config) (registered : List PluginId) : List PluginId :=
  if c.activation.knownPlugins.isEmpty then registered
  else c.activation.knownPlugins.map PluginId.mk

/-- The state the store starts with. -/
def initialSnapshot (c : Config) (registered : List PluginId) : Snapshot where
  activation :=
    { known := c.knownPlugins registered
      active := none
      selection := c.activation.lastSelection.map PluginId.mk }
  flags := c.featureFlags
  settings := c.userSettings

end Config

end Dashboard
