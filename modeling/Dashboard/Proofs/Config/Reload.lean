import Dashboard.Command.Program
import Dashboard.Proofs.Config.Load
import Dashboard.Proofs.Config.Render
import Dashboard.Proofs.Persistence

/-!
# Loading what was printed

The printed document says everything that the defaults say, so nothing of them is left when it is
loaded; only a selection that was never made is not written, and the default says the same. What was
printed is therefore loaded as the configuration it was printed from, or it is not loaded at all.
-/

namespace Dashboard

open Data Toml

open ConfigTree (ofToml entriesOfToml merge mergeEntries)

/-! ### Sections over their defaults -/

theorem list_text_stringArray (texts : List String) :
    Decoder.list Decoder.text (ofToml (stringArray texts)) = .ok texts := by
  rw [stringArray, ofToml, ConfigTree.itemsOfToml_eq, List.map_map]
  exact Decoder.list_eq rfl (List.forall₂_map_left_iff.2 (List.forall₂_same.2 fun _ _ => rfl))

theorem merge_stringArray (weak : ConfigTree) (texts : List String) :
    merge weak (ofToml (stringArray texts)) = ofToml (stringArray texts) := rfl

section Sections

variable (a b d : ConfigTree)

theorem DashboardSection.decode_merge (s : DashboardSection) :
    layout.decode (merge (.table [("container", a), ("log_level", b), ("name", d)])
      (ofToml s.toToml)) = .ok s := by
  have hmerge : merge (.table [("container", a), ("log_level", b), ("name", d)])
      (ofToml s.toToml) = .table [("container", .string s.container),
        ("log_level", .string s.logLevel), ("name", .string s.name)] := by
    simp only [toToml, ofToml, entriesOfToml, merge, mergeEntries, findEntry, putEntry,
      String.reduceEq, String.reduceLT, ↓reduceIte]
  rw [hmerge]
  exact decode_eq rfl rfl rfl rfl

theorem FlagsSection.decode_merge (s : FlagsSection) :
    layout.decode (merge (.table [("enabled_experimental_plugins", a), ("values", .table [])])
      (ofToml s.toToml)) = .ok s := by
  have hvalues : merge (.table [])
      (ofToml (.table (s.values.entries.map fun e => (e.1, .boolean e.2)))) =
      .table (s.values.entries.map fun e => (e.1, .boolean e.2)) := by
    rw [ofToml, ConfigTree.entriesOfToml_eq_map (ConfigTree.keysIncrease_map s.values.sorted _),
      List.map_map]
    exact ConfigTree.merge_empty (ConfigTree.keysIncrease_map s.values.sorted _)
  have hmerge : merge (.table [("enabled_experimental_plugins", a), ("values", .table [])])
      (ofToml s.toToml) = .table
        [("enabled_experimental_plugins", ofToml (stringArray s.experimental)),
          ("values", .table (s.values.entries.map fun e => (e.1, .boolean e.2)))] := by
    rw [toToml, ofToml, merge, ← hvalues]
    simp only [entriesOfToml, mergeEntries, findEntry, putEntry, merge_stringArray,
      String.reduceEq, String.reduceLT, ↓reduceIte]
  rw [hmerge]
  exact decode_eq rfl (list_text_stringArray _) (Decoder.keyMap_eq rfl
    (List.forall₂_map_left_iff.2 (List.forall₂_same.2 fun _ _ => ⟨rfl, rfl⟩)))

/-- A selection that was never made is left to the default, which says that there is none. -/
theorem ActivationSection.decode_merge (s : ActivationSection) :
    layout.decode (merge (.table [("known_plugins", a), ("last_selection", .null)])
      (ofToml s.toToml)) = .ok s := by
  have hmerge : merge (.table [("known_plugins", a), ("last_selection", .null)])
      (ofToml s.toToml) = .table [("known_plugins", ofToml (stringArray s.knownPlugins)),
        ("last_selection", s.lastSelection.elim .null .string)] := by
    cases hselection : s.lastSelection <;>
      simp only [toToml, hselection, ofToml, entriesOfToml, merge, mergeEntries, findEntry,
        putEntry, merge_stringArray, String.reduceEq, String.reduceLT, ↓reduceIte,
        Option.map_none, Option.map_some, Option.toList_none, Option.toList_some, List.nil_append,
        List.singleton_append, Option.elim]
  rw [hmerge]
  refine decode_eq rfl (list_text_stringArray _) ?_
  cases s.lastSelection <;> rfl

theorem manifestsLayout_decode_merge (paths : List String) :
    manifestsLayout.decode (merge (.table [("manifests", a)])
      (ofToml (.table [("manifests", stringArray paths)]))) = .ok paths := by
  have hmerge : merge (.table [("manifests", a)])
      (ofToml (.table [("manifests", stringArray paths)])) =
      .table [("manifests", ofToml (stringArray paths))] := by
    rw [ofToml, merge]
    simp only [entriesOfToml, mergeEntries, findEntry, putEntry, merge_stringArray,
      String.reduceLT, ↓reduceIte]
  rw [hmerge]
  exact manifestsLayout_decode_eq rfl (list_text_stringArray _)

end Sections

/-! ### A configuration over the defaults -/

namespace Config

variable {c : Config} {settings : Toml.Entries}

theorem keyMap_settings
    (h : ConfigTree.entriesToJson (entriesOfToml settings) = c.settings.entries) :
    Decoder.keyMap Decoder.json (merge (.table []) (ofToml (.table settings))) =
      .ok c.settings := by
  rw [ofToml, ConfigTree.merge_empty (ConfigTree.sorted_entriesOfToml settings).increase]
  rw [ConfigTree.entriesToJson_eq] at h
  exact Decoder.keyMap_eq rfl (h ▸ List.forall₂_map_right_iff.2
    (List.forall₂_same.2 fun _ _ => ⟨rfl, rfl⟩))

/-- A document over the defaults is read as the configuration it was made from. -/
theorem decoder_merge (h : ConfigTree.entriesToJson (entriesOfToml settings) = c.settings.entries) :
    decoder (merge Layer.defaults.tree (.table (entriesOfToml (c.document settings)))) = .ok c := by
  have hread : entriesOfToml (c.document settings) =
      [("activation", ofToml c.activation.toToml), ("dashboard", ofToml c.dashboard.toToml),
        ("flags", ofToml c.flags.toToml),
        ("plugins", ofToml (.table [("manifests", stringArray c.manifests)])),
        ("settings", ofToml (.table settings))] := by
    simp only [document, entriesOfToml, putEntry, String.reduceEq, String.reduceLT, ↓reduceIte]
  rw [hread, Layer.defaults, merge]
  refine decoder_eq ?_ (c.activation.decode_merge (.array []))
    (c.dashboard.decode_merge (.string DashboardSection.initial.container)
      (.string DashboardSection.initial.logLevel) (.string DashboardSection.initial.name))
    (c.flags.decode_merge (.array [])) (manifestsLayout_decode_merge (.array []) c.manifests)
    (keyMap_settings h)
  simp only [mergeEntries, findEntry, putEntry, Readable.shape, ConfigTree.shape, String.reduceEq,
    String.reduceLT, ↓reduceIte]

/-- A document that is read as the one of a configuration is loaded as that configuration. -/
theorem ofText_eq (hviolations : c.violations = [])
    (h : ConfigTree.entriesToJson (entriesOfToml settings) = c.settings.entries) {text : String}
    {read : Toml.Entries} (hparse : parse? text = some read)
    (hread : entriesOfToml read = entriesOfToml (c.document settings)) : ofText text = .ok c := by
  rw [ofText_eq_ofLayers hparse, ofLayers_eq_ok_iff, mergeAll_documentLayers, hread]
  exact ⟨decoder_merge h, hviolations⟩

end Config

/-! ### Printing and loading -/

theorem Program.execute_config_of_error {c : Config} {e : RenderError}
    (h : entriesToToml c.settings.entries = .error e) (files : FileAccess) :
    execute files c .config = .failed (.config ("cannot render configuration: " ++ e.message)) := by
  rw [execute, Config.render, Config.toToml, h]
  rfl

theorem Program.execute_config_of_ok {c : Config} {settings : Toml.Entries}
    (h : entriesToToml c.settings.entries = .ok settings) (files : FileAccess) :
    execute files c .config = .printed (print (c.document settings)) := by
  rw [execute, Config.render, Config.toToml, h]
  rfl

/-- If a document can hold the settings of an accepted configuration, it is printed and loaded as it
was. If not, printing says so, or the text is refused: no text is loaded as something else. -/
theorem Config.printed_reloads {sources : List ConfigSource} {env : List (String × String)}
    {c : Config} (h : Config.load sources env = .ok c) (files : FileAccess) :
    (c.isStorable = true →
      ∃ text, Program.execute files c .config = .printed text ∧ Config.ofText text = .ok c) ∧
    (c.isStorable = false →
      (∃ e : RenderError, Program.execute files c .config =
        .failed (.config ("cannot render configuration: " ++ e.message))) ∨
      ∃ text, Program.execute files c .config = .printed text ∧
        Config.ofText text = .error [.notToml "<inline>"]) := by
  obtain ⟨hcanonical, hviolations⟩ := Config.of_load h
  cases hsettings : entriesToToml c.settings.entries with
  | error e =>
    have hstorable := isStorable_eq_false hcanonical hsettings
    exact ⟨fun h => absurd h (by simp [hstorable]),
      fun _ => .inl ⟨e, Program.execute_config_of_error hsettings files⟩⟩
  | ok settings =>
    obtain ⟨hsound, hback⟩ := settings_back hcanonical hsettings
    have hdocument := document_sound (c := c) hsound
    have hprinted := Program.execute_config_of_ok hsettings files
    rw [← documentFits_eq_isStorable hcanonical hsettings]
    refine ⟨fun hfits => ?_, fun hfits => .inr ?_⟩
    · obtain ⟨read, hparse, hread⟩ := parse?_print hdocument hfits
      exact ⟨_, hprinted, ofText_eq hviolations hback hparse hread⟩
    · exact ⟨_, hprinted, ofText_eq_error (parse?_print_eq_none hdocument hfits)⟩

/-- Settings from a document and a variable, with an array of tables, come back. -/
theorem Config.printed_reloads_layers : ∃ c,
    Config.load [⟨"plugboard.toml", true,
      some "[settings]\nratio = 0.1\n\n[[settings.plugins]]\nid = 'a'\nsizes = [1, [true]]"⟩]
      [("PLUGBOARD_SETTINGS.LIMIT", "-1")] = .ok c ∧
    c.isStorable = true ∧
    ∃ text, Program.execute (.ofContents []) c .config = .printed text ∧
      Config.ofText text = .ok c := by
  have hparse : parse?
      "[settings]\nratio = 0.1\n\n[[settings.plugins]]\nid = 'a'\nsizes = [1, [true]]" =
      some [("settings", .table
        [("ratio", .float (Number.Binary64.ofDecimal false 1 (-1))),
          ("plugins", .array [.table
            [("id", .string "a"), ("sizes", .array [.integer 1, .array [.boolean true]])]])])] := by
    simp only [parse?, sections, String.reduceToList]
    rfl
  have htree : Environment.tree [("PLUGBOARD_SETTINGS.LIMIT", "-1")] =
      .table [("settings", .table [("limit", .signed (-1))])] := rfl
  have hload : Config.load [⟨"plugboard.toml", true,
      some "[settings]\nratio = 0.1\n\n[[settings.plugins]]\nid = 'a'\nsizes = [1, [true]]"⟩]
      [("PLUGBOARD_SETTINGS.LIMIT", "-1")] =
      .ok { Config.initial with
        settings := .ofList
          [("limit", .integer (-1)),
            ("plugins", .array [.object
              [("id", .string "a"), ("sizes", .array [.integer 1, .array [.boolean true]])]]),
            ("ratio", .float (Number.Binary64.ofDecimal false 1 (-1)))] } := by
    simp only [Config.load, Config.readSources, Layer.ofSource, List.map, hparse, htree]
    rfl
  have hreload := (Config.printed_reloads hload (.ofContents [])).1
  refine ⟨_, hload, ?_, hreload ?_⟩ <;> decide +kernel

/-- A document may say that a setting is not a number. The setting is null then, and the accepted
configuration is not printed. -/
theorem Config.not_printed_of_nan : ∃ c,
    Config.load [⟨"plugboard.toml", true, some "[settings]\na = nan"⟩] [] = .ok c ∧
    ∀ files, Program.execute files c .config =
      .failed (.config "cannot render configuration: unsupported unit type") := by
  have hparse : parse? "[settings]\na = nan" =
      some [("settings", .table [("a", .float (.nan false))])] := by
    simp only [parse?, sections, String.reduceToList]
    rfl
  have hload : Config.load [⟨"plugboard.toml", true, some "[settings]\na = nan"⟩] [] =
      .ok { Config.initial with settings := .ofList [("a", .null)] } := by
    simp only [Config.load, Config.readSources, Layer.ofSource, List.map, hparse]
    rfl
  exact ⟨_, hload, fun files => rfl⟩

end Dashboard
