import Dashboard.Config.Model
import Dashboard.Plugin.Manifest
import Dashboard.Proofs.Data.Decode
import Dashboard.Store.Codec
import Mathlib.Dynamics.FixedPoints.Basic

/-!
# Reading back what was written

Whatever is persisted as JSON is read back as it was, and so it survives any number of reloads. A
structure is written with its keys in order and nothing left out; its fields are read in that order,
each from a value that reads back by itself. The parts of a configuration are stated for every
format, by the shape of the values that hold them.
-/

namespace Dashboard

open Data

/-! ### Texts, lists and maps in JSON -/

namespace Data.Decoder

variable {α : Type} {d : Decoder Json α}

theorem list_map {f : α → Json} (h : ∀ a, d (f a) = .ok a) (as : List α) :
    list d (.array (as.map f)) = .ok as :=
  list_eq rfl (List.forall₂_map_left_iff.2 (List.forall₂_same.2 fun a _ => h a))

theorem keyMap_ofMap {f : α → Json} (h : ∀ a, d (f a) = .ok a) (m : KeyMap α) :
    keyMap d (.ofMap f m) = .ok m :=
  keyMap_eq rfl (List.forall₂_map_left_iff.2 (List.forall₂_same.2 fun e _ => ⟨rfl, h e.2⟩))

theorem keySet_keys (s : KeySet) : keySet (Json.array (s.keys.map .string)) = .ok s :=
  keySet_eq rfl (List.forall₂_map_left_iff.2 (List.forall₂_same.2 fun _ _ => rfl))

theorem optional_ofOption (text? : Option String) :
    optional text (Json.ofOption text?) = .ok text? := by
  cases text? <;> rfl

end Data.Decoder

namespace PluginId

theorem list_listToJson (ids : List PluginId) :
    Decoder.list decoder (listToJson ids) = .ok ids :=
  Decoder.list_map decoder_toJson ids

theorem optional_optionToJson (id? : Option PluginId) :
    Decoder.optional decoder (optionToJson id?) = .ok id? := by
  cases id? <;> rfl

end PluginId

/-! ### The observed state -/

namespace FeatureFlags

theorem decoder_toJson (f : FeatureFlags) : decoder f.toJson = .ok f := by
  have hexperimental := Decoder.keySet_keys f.experimental
  have hflags := Decoder.keyMap_ofMap (d := Decoder.boolean) (f := .boolean) (fun _ => rfl) f.flags
  exact Layout.decode_of_mapping rfl rfl
    (Layout.readEntries_cons rfl hexperimental (Layout.readEntries_cons rfl hflags rfl))

end FeatureFlags

namespace Settings

theorem decoder_toJson (s : Settings) : decoder s.toJson = .ok s := by
  have hvalues := Decoder.keyMap_ofMap (d := Decoder.json) (f := id) (fun _ => rfl) s.values
  simp [decoder, toJson, hvalues]

end Settings

namespace Activation

theorem decoder_toJson (a : Activation) : decoder a.toJson = .ok a := by
  have hactive := PluginId.optional_optionToJson a.active
  have hknown := PluginId.list_listToJson a.known
  have hselection := PluginId.optional_optionToJson a.selection
  exact Layout.decode_of_mapping rfl rfl (Layout.readEntries_cons rfl hactive
    (Layout.readEntries_cons rfl hknown (Layout.readEntries_cons rfl hselection rfl)))

end Activation

namespace Snapshot

theorem decoder_toJson (s : Snapshot) : decoder s.toJson = .ok s :=
  Layout.decode_of_mapping rfl rfl
    (Layout.readEntries_cons rfl s.activation.decoder_toJson
      (Layout.readEntries_cons rfl s.flags.decoder_toJson
        (Layout.readEntries_cons rfl s.settings.decoder_toJson rfl)))

end Snapshot

/-! ### Manifests -/

namespace Manifest

theorem decoder_toJson (m : Manifest) : decoder m.toJson = .ok m := by
  have hname : Decoder.text (Json.string m.displayName) = .ok m.displayName := rfl
  have hexperimental : Decoder.boolean (Json.boolean m.experimental) = .ok m.experimental := rfl
  have hhost := Decoder.optional_ofOption m.minHostVersion
  have hflag := Decoder.optional_ofOption m.requiresFlag
  have hsetting := Decoder.optional_ofOption m.requiresSetting
  refine Layout.decode_of_mapping rfl rfl ?_
  exact Layout.readEntries_cons rfl hname (Layout.readEntries_cons rfl hexperimental
    (Layout.readEntries_cons rfl m.id.decoder_toJson (Layout.readEntries_cons rfl hhost
      (Layout.readEntries_cons rfl m.mount.decoder_toJson (Layout.readEntries_cons rfl hflag
        (Layout.readEntries_cons rfl hsetting rfl))))))

end Manifest

/-! ### The configuration -/

namespace DashboardSection

variable {σ : Type} [Readable σ]

theorem decode_eq {s : DashboardSection} {v container level name : σ}
    (hv : Readable.shape v =
      .mapping [("container", container), ("log_level", level), ("name", name)])
    (hcontainer : Decoder.text container = .ok s.container)
    (hlevel : Decoder.text level = .ok s.logLevel) (hname : Decoder.text name = .ok s.name) :
    layout.decode v = .ok s :=
  Layout.decode_of_mapping hv rfl (Layout.readEntries_cons rfl hcontainer
    (Layout.readEntries_cons rfl hlevel (Layout.readEntries_cons rfl hname rfl)))

end DashboardSection

namespace FlagsSection

variable {σ : Type} [Readable σ]

theorem decode_eq {s : FlagsSection} {v experimental values : σ}
    (hv : Readable.shape v =
      .mapping [("enabled_experimental_plugins", experimental), ("values", values)])
    (hexperimental : Decoder.list Decoder.text experimental = .ok s.experimental)
    (hvalues : Decoder.keyMap Decoder.boolean values = .ok s.values) :
    layout.decode v = .ok s :=
  Layout.decode_of_mapping hv rfl
    (Layout.readEntries_cons rfl hexperimental (Layout.readEntries_cons rfl hvalues rfl))

end FlagsSection

namespace ActivationSection

variable {σ : Type} [Readable σ]

theorem decode_eq {s : ActivationSection} {v known selection : σ}
    (hv : Readable.shape v = .mapping [("known_plugins", known), ("last_selection", selection)])
    (hknown : Decoder.list Decoder.text known = .ok s.knownPlugins)
    (hselection : Decoder.optional Decoder.text selection = .ok s.lastSelection) :
    layout.decode v = .ok s :=
  Layout.decode_of_mapping hv rfl
    (Layout.readEntries_cons rfl hknown (Layout.readEntries_cons rfl hselection rfl))

end ActivationSection

theorem manifestsLayout_decode_eq {σ : Type} [Readable σ] {paths : List String} {v manifests : σ}
    (hv : Readable.shape v = .mapping [("manifests", manifests)])
    (hmanifests : Decoder.list Decoder.text manifests = .ok paths) :
    manifestsLayout.decode v = .ok paths :=
  Layout.decode_of_mapping hv rfl (Layout.readEntries_cons rfl hmanifests rfl)

namespace Config

/-- A configuration is read from a mapping of its five sections. -/
theorem decoder_eq {σ : Type} [Readable σ] {c : Config}
    {v activation dashboard flags plugins settings : σ}
    (hv : Readable.shape v =
      .mapping [("activation", activation), ("dashboard", dashboard), ("flags", flags),
        ("plugins", plugins), ("settings", settings)])
    (hactivation : ActivationSection.layout.decode activation = .ok c.activation)
    (hdashboard : DashboardSection.layout.decode dashboard = .ok c.dashboard)
    (hflags : FlagsSection.layout.decode flags = .ok c.flags)
    (hplugins : manifestsLayout.decode plugins = .ok c.manifests)
    (hsettings : Decoder.keyMap Decoder.json settings = .ok c.settings) : decoder v = .ok c :=
  Layout.decode_of_mapping hv rfl
    (Layout.readEntries_cons rfl hactivation (Layout.readEntries_cons rfl hdashboard
      (Layout.readEntries_cons rfl hflags (Layout.readEntries_cons rfl hplugins
        (Layout.readEntries_cons rfl hsettings rfl)))))

theorem decoder_toJson (c : Config) : decoder c.toJson = .ok c := by
  have htexts (texts : List String) :
      Decoder.list Decoder.text (Json.array (texts.map .string)) = .ok texts :=
    Decoder.list_map (f := .string) (fun _ => rfl) texts
  have hvalues := Decoder.keyMap_ofMap (d := Decoder.boolean) (f := .boolean)
    (fun _ => rfl) c.flags.values
  have hsettings := Decoder.keyMap_ofMap (d := Decoder.json) (f := id) (fun _ => rfl) c.settings
  exact decoder_eq rfl
    (ActivationSection.decode_eq rfl (htexts _) (Decoder.optional_ofOption _))
    (DashboardSection.decode_eq rfl rfl rfl rfl)
    (FlagsSection.decode_eq rfl (htexts _) hvalues)
    (manifestsLayout_decode_eq rfl (htexts _)) hsettings

end Config

/-! ### Every type -/

/-- Writes what was read, and reads it again. -/
def reload {α : Type} (write : α → Json) (read : Decoder Json α) (a? : Except DecodeError α) :
    Except DecodeError α :=
  a?.bind fun a => read (write a)

/-- What is written is read back as it was, and what was read survives any number of reloads. -/
structure Persists {α : Type} (write : α → Json) (read : Decoder Json α) : Prop where
  back : ∀ a, read (write a) = .ok a
  reloads : ∀ j a, read j = .ok a → ∀ n, (reload write read)^[n] (read j) = .ok a

theorem persists_of_back {α : Type} {write : α → Json} {read : Decoder Json α}
    (h : ∀ a, read (write a) = .ok a) : Persists write read where
  back := h
  reloads j a hj n := by
    have hfixed : Function.IsFixedPt (reload write read) (.ok a) := h a
    rw [hj, (hfixed.iterate n).eq]

/-- Every type that is persisted is read back as it was written. -/
theorem persists_all :
    Persists PluginId.toJson PluginId.decoder ∧
    Persists MountPoint.toJson MountPoint.decoder ∧
    Persists MountKind.toJson MountKind.decoder ∧
    Persists FeatureFlags.toJson FeatureFlags.decoder ∧
    Persists Settings.toJson Settings.decoder ∧
    Persists Activation.toJson Activation.decoder ∧
    Persists Snapshot.toJson Snapshot.decoder ∧
    Persists Manifest.toJson Manifest.decoder ∧
    Persists Config.toJson Config.decoder :=
  ⟨persists_of_back PluginId.decoder_toJson, persists_of_back MountPoint.decoder_toJson,
    persists_of_back MountKind.decoder_toJson, persists_of_back FeatureFlags.decoder_toJson,
    persists_of_back Settings.decoder_toJson, persists_of_back Activation.decoder_toJson,
    persists_of_back Snapshot.decoder_toJson, persists_of_back Manifest.decoder_toJson,
    persists_of_back Config.decoder_toJson⟩

end Dashboard
