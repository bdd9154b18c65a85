import Dashboard.Plugin.Manifest
import Dashboard.Proofs.Config.Validation
import Dashboard.Proofs.Data.Decode
import Dashboard.Proofs.Plugin.Resolution
import Mathlib.Tactic.MkIffOfInductiveProp

/-!
# Opening the gates of a manifest

A plugin from a manifest is available when every gate that the manifest declares is open: its flag
is set, its setting is on, and the user opted into it. One configuration opens all of them, names
the plugin as known and selects it, and it is accepted unless the manifest asks for a flag whose
name is blank. A flag of that name is what every configuration that opens the gates must set, and
no configuration that sets it is accepted.
-/

namespace Dashboard

open Data

/-! ### Gates -/

namespace Manifest

/-- Whether the flags and settings open every gate that the manifest declares. -/
@[mk_iff isOpen_iff]
structure IsOpen (m : Manifest) (flags : FeatureFlags) (settings : Settings) : Prop where
  flag : ∀ name, m.requiresFlag = some name → flags.isSet name = true
  setting : ∀ key, m.requiresSetting = some key → settings.isOn key = true
  experimental : m.experimental = true → flags.isExperimental m.id = true

theorem isEnabled_iff (m : Manifest) (flags : FeatureFlags) (settings : Settings) :
    m.toDescriptor.isEnabled flags settings = true ↔ m.IsOpen flags settings := by
  obtain ⟨id, name, mount, flag?, key?, experimental, requirement?⟩ := m
  rw [isOpen_iff]
  cases flag? <;> cases key? <;> cases experimental <;>
    simp [toDescriptor, predicate, Descriptor.isEnabled, Predicate.eval, and_assoc]

/-- The first check of a section is that its identifier is not blank. -/
theorem of_ofSection {s : ManifestSection} {m : Manifest} (h : ofSection s = .ok m) :
    m.id = ⟨s.id⟩ ∧ Text.blank s.id = false := by
  rw [ofSection] at h
  split at h
  · cases h
  rename_i hid
  split at h
  · cases h
  split at h
  · cases h
  split at h
  · cases h
  · exact ⟨(congrArg Manifest.id (Except.ok.inj h)).symm, Bool.not_eq_true _ ▸ hid⟩

theorem blank_id_of_parse {text : String} {m : Manifest} (h : parse text = .ok m) :
    Text.blank m.id.text = false := by
  rw [parse] at h
  split at h
  · cases h
  split at h
  · cases h
  · obtain ⟨hid, hblank⟩ := of_ofSection h
    rw [hid]
    exact hblank

/-- The configuration that opens every gate of the manifest, and otherwise only names the plugin as
known and selects it. -/
def openingConfig (m : Manifest) : Config where
  dashboard := .initial
  flags :=
    { experimental := if m.experimental then [m.id.text] else []
      values := m.requiresFlag.elim .empty fun name => KeyMap.empty.insert name true }
  settings := m.requiresSetting.elim .empty fun key => KeyMap.empty.insert key (.boolean true)
  activation := ⟨some m.id.text, [m.id.text]⟩
  manifests := []

theorem isOpen_openingConfig (m : Manifest) :
    m.IsOpen m.openingConfig.featureFlags m.openingConfig.userSettings where
  flag := by
    intro name hname
    simp [FeatureFlags.isSet, Config.featureFlags, openingConfig, hname]
  setting := by
    intro key hkey
    simp [Settings.isOn, Settings.get?, Config.userSettings, openingConfig, hkey]
  experimental := by
    intro hexperimental
    simp [FeatureFlags.isExperimental, Config.featureFlags, openingConfig, hexperimental,
      KeySet.ofKeys, KeySet.add, KeyMap.contains]

end Manifest

/-! ### Accepted configurations -/

namespace Config

/-- A flag that an accepted configuration sets does not have a blank name. -/
theorem blank_of_isSet {c : Config} (hc : c.violations = []) {name : String}
    (h : c.featureFlags.isSet name = true) : Text.blank name = false := by
  have hmem : name ∈ c.flags.values.keys := by
    by_contra hmissing
    have hnone : c.flags.values.get? name = none :=
      findEntry_eq_none_iff.2 fun e he heq => hmissing (heq ▸ List.mem_map_of_mem he)
    simp [FeatureFlags.isSet, featureFlags, hnone] at h
  exact Text.blank_eq_false_iff.2 ((violations_eq_nil_iff.1 hc).flagNames name hmem)

theorem violations_openingConfig {m : Manifest} (hid : Text.blank m.id.text = false)
    (hflag : m.requiresFlag.any Text.blank = false) : m.openingConfig.violations = [] := by
  have hid := Text.blank_eq_false_iff.1 hid
  refine violations_eq_nil_iff.2
    { level := (by decide : Config.initial.KnowsLevel)
      container := (by decide : Text.NonBlank Config.initial.dashboard.container)
      flagNames := ?_
      experimental := ?_
      selection := by simpa [Manifest.openingConfig] using hid
      manifests := List.forall_mem_nil _
      known := List.forall_mem_singleton.2 hid
      distinct := List.nodup_singleton _ }
  · cases hname : m.requiresFlag with
    | none => simp [Manifest.openingConfig, hname, KeyMap.keys, KeyMap.empty]
    | some name =>
      rw [hname, Option.any_some, Text.blank_eq_false_iff] at hflag
      simp [Manifest.openingConfig, hname, KeyMap.keys, KeyMap.insert, KeyMap.empty, putEntry,
        hflag]
  · cases h : m.experimental <;> simp [Manifest.openingConfig, h, hid]

/-- What it takes to switch the plugin of a manifest on: an accepted configuration that enables it,
names it as known and selects it, and a resolver that then picks it wherever it is registered. -/
structure SwitchesOn (c : Config) (m : Manifest) : Prop where
  accepted : c.violations = []
  enabled : m.toDescriptor.isEnabled c.featureFlags c.userSettings = true
  known : m.id.text ∈ c.activation.knownPlugins
  selected : c.activation.lastSelection = some m.id.text
  picked : ∀ r : Registry, r.get? m.id = some m.toDescriptor →
    r.target (c.initialSnapshot r.ids) = some m.id

/-- A known plugin that is enabled and selected is picked. -/
theorem target_of_enabled {c : Config} {m : Manifest} {r : Registry}
    (henabled : m.toDescriptor.isEnabled c.featureFlags c.userSettings = true)
    (hknown : m.id.text ∈ c.activation.knownPlugins)
    (hselected : c.activation.lastSelection = some m.id.text)
    (hr : r.get? m.id = some m.toDescriptor) :
    r.target (c.initialSnapshot r.ids) = some m.id := by
  have hselection : (c.initialSnapshot r.ids).activation.selection = some m.id := by
    show c.activation.lastSelection.map PluginId.mk = some m.id
    rw [hselected]
    rfl
  have hmem : m.id ∈ c.knownPlugins r.ids := by
    have hne : c.activation.knownPlugins ≠ [] := List.ne_nil_of_mem hknown
    rw [knownPlugins, if_neg (mt List.isEmpty_iff.1 hne)]
    exact List.mem_map.2 ⟨m.id.text, hknown, rfl⟩
  apply Registry.target_of_selection hselection
  exact Registry.mem_eligible.2 ⟨m.toDescriptor, Registry.mem_descriptors.2 hr, rfl, hmem, henabled⟩

theorem switchesOn_openingConfig {m : Manifest} (hid : Text.blank m.id.text = false)
    (hflag : m.requiresFlag.any Text.blank = false) : m.openingConfig.SwitchesOn m where
  accepted := violations_openingConfig hid hflag
  enabled := (m.isEnabled_iff _ _).2 m.isOpen_openingConfig
  known := List.mem_cons_self
  selected := rfl
  picked _ hr :=
    target_of_enabled ((m.isEnabled_iff _ _).2 m.isOpen_openingConfig) List.mem_cons_self rfl hr

/-- No accepted configuration sets a flag with a blank name. -/
theorem SwitchesOn.blank_flag {c : Config} {m : Manifest} (h : c.SwitchesOn m) :
    m.requiresFlag.any Text.blank = false := by
  cases hname : m.requiresFlag with
  | none => rfl
  | some name =>
    have hset := ((m.isEnabled_iff _ _).1 h.enabled).flag name hname
    exact blank_of_isSet h.accepted hset

end Config

/-! ### Manifests that can be switched on -/

namespace Manifest

/-- The plugin of an accepted manifest can be switched on exactly if the manifest does not ask for a
flag with a blank name. -/
theorem can_switch_on_iff {text : String} {m : Manifest} (h : parse text = .ok m) :
    (∃ c : Config, c.SwitchesOn m) ↔ m.requiresFlag.any Text.blank = false := by
  constructor
  · rintro ⟨c, hc⟩
    exact hc.blank_flag
  · intro hflag
    exact ⟨m.openingConfig, Config.switchesOn_openingConfig (blank_id_of_parse h) hflag⟩

/-- A manifest with every gate. -/
def gatedText : String :=
  "[plugin]\n" ++
  "id = \"projector\"\n" ++
  "mount = \"iframe\"\n" ++
  "module_path = \"projector.js\"\n" ++
  "requires_flag = \"beta\"\n" ++
  "requires_setting = \"projector.enabled\"\n" ++
  "experimental = true\n" ++
  "min_host_version = \">=0.1\"\n"

def gated : Manifest where
  id := ⟨"projector"⟩
  displayName := "projector"
  mount := .iframe "projector.js"
  requiresFlag := some "beta"
  requiresSetting := some "projector.enabled"
  experimental := true
  minHostVersion := some ">=0.1"

theorem can_switch_on_gated : parse gatedText = .ok gated ∧ ∃ c : Config, c.SwitchesOn gated := by
  have hparse : parse gatedText = .ok gated := by decide +kernel
  exact ⟨hparse, (can_switch_on_iff hparse).2 (by decide)⟩

/-- A manifest that asks for a flag without a name is accepted and stays off for good. -/
theorem never_on_nameless_flag :
    ∃ m, parse "[plugin]\nid = \"gated\"\nmount = \"none\"\nrequires_flag = \"\"\n" = .ok m ∧
      ¬∃ c : Config, c.SwitchesOn m := by
  refine ⟨⟨⟨"gated"⟩, "gated", .none, some "", none, false, none⟩, by decide +kernel, ?_⟩
  rintro ⟨c, hc⟩
  exact absurd hc.blank_flag (by decide)

end Manifest

end Dashboard
