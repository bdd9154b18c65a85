import Dashboard.Plugin.Codec
import Dashboard.Store.Snapshot

/-!
# The observed state as JSON

Flags, settings and snapshots are persisted as JSON objects. Flags may leave out either part; a
snapshot names all its parts.
-/

namespace Dashboard

open Data

namespace FeatureFlags

def toJson (f : FeatureFlags) : Json :=
  .object
    [("enabled_experimental_plugins", .array (f.experimental.keys.map .string)),
     ("flags", .ofMap .boolean f.flags)]

def layout {σ : Type} [Readable σ] : Layout σ FeatureFlags where
  name := "FeatureFlags"
  fields :=
    [.of "flags" .defaulted (Decoder.keyMap Decoder.boolean) fun f v => { f with flags := v },
     .of "enabled_experimental_plugins" .defaulted Decoder.keySet
       fun f v => { f with experimental := v }]
  strict := false
  initial := .empty

def decoder {σ : Type} [Readable σ] : Decoder σ FeatureFlags := layout.decode

end FeatureFlags

namespace Settings

def toJson (s : Settings) : Json := .ofMap id s.values

def decoder {σ : Type} [Readable σ] : Decoder σ Settings := fun v =>
  Settings.mk <$> Decoder.keyMap Decoder.json v

end Settings

def PluginId.listToJson (ids : List PluginId) : Json := .array (ids.map PluginId.toJson)

def PluginId.optionToJson (id : Option PluginId) : Json := id.elim .null PluginId.toJson

namespace Activation

def toJson (a : Activation) : Json :=
  .object
    [("active_plugin_id", PluginId.optionToJson a.active),
     ("known_plugin_ids", PluginId.listToJson a.known),
     ("last_user_selection", PluginId.optionToJson a.selection)]

def layout {σ : Type} [Readable σ] : Layout σ Activation where
  name := "ActivationState"
  fields :=
    [.of "known_plugin_ids" .required (Decoder.list PluginId.decoder)
       fun a v => { a with known := v },
     .of "active_plugin_id" .optional (Decoder.optional PluginId.decoder)
       fun a v => { a with active := v },
     .of "last_user_selection" .optional (Decoder.optional PluginId.decoder)
       fun a v => { a with selection := v }]
  strict := false
  initial := ⟨[], none, none⟩

def decoder {σ : Type} [Readable σ] : Decoder σ Activation := layout.decode

end Activation

namespace Snapshot

def toJson (s : Snapshot) : Json :=
  .object
    [("activation", s.activation.toJson), ("flags", s.flags.toJson),
     ("settings", s.settings.toJson)]

def layout {σ : Type} [Readable σ] : Layout σ Snapshot where
  name := "StoreSnapshot"
  fields :=
    [.of "activation" .required Activation.decoder fun s v => { s with activation := v },
     .of "flags" .required FeatureFlags.decoder fun s v => { s with flags := v },
     .of "settings" .required Settings.decoder fun s v => { s with settings := v }]
  strict := false
  initial := ⟨⟨[], none, none⟩, .empty, .empty⟩

def decoder {σ : Type} [Readable σ] : Decoder σ Snapshot := layout.decode

end Snapshot

end Dashboard
