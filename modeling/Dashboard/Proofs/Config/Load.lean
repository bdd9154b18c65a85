import Dashboard.Config.Load
import Dashboard.Proofs.Config.Tree

/-!
# What an accepted configuration holds

The layers are tables in key order, whatever documents and variables say, and so is what they say
together. The settings of a configuration are parts of that, as JSON: their objects are in key order
and their numbers finite.
-/

namespace Dashboard

open Data Toml

namespace Environment

theorem mem_readItems {α : Type} {item : Reader α} {close : Char} {P : α → Prop}
    (hitem : ∀ {s a rest}, item s = some (a, rest) → P a) {fuel : ℕ} {s : List Char} {as : List α}
    {rest : List Char} (h : readItems item close fuel s = some (as, rest)) : ∀ a ∈ as, P a := by
  induction fuel generalizing s as rest with
  | zero => cases h
  | succ fuel ih =>
    rw [readItems] at h
    split at h
    · obtain ⟨rfl, -⟩ := Prod.mk.inj (Option.some.inj h)
      exact List.forall_mem_nil _
    · split at h
      · cases h
      · rename_i ha
        split at h
        · rename_i has
          obtain ⟨rfl, -⟩ := Prod.mk.inj (Option.some.inj h)
          exact List.forall_mem_cons.2 ⟨hitem ha, ih has⟩
        · cases h
      · rename_i ha
        obtain ⟨rest', -, h⟩ := Option.map_eq_some_iff.1 h
        obtain ⟨rfl, -⟩ := Prod.mk.inj h
        exact List.forall_mem_singleton.2 (hitem ha)

theorem sorted_plainValue (s : List Char) : (plainValue s).Sorted := by
  rw [plainValue]
  split
  · exact .float _
  · split
    · exact .unsigned _
    · split
      · exact .signed _
      · exact .string _

theorem sorted_readValue {depth : ℕ} {s : List Char} {t : ConfigTree} {rest : List Char}
    (h : readValue depth s = some (t, rest)) : t.Sorted := by
  induction depth generalizing s t rest with
  | zero => cases h
  | succ depth ih =>
    have hentry {s : List Char} {e : String × ConfigTree} {rest : List Char}
        (h : readEntry (readValue depth) s = some (e, rest)) : e.2.Sorted := by
      rw [readEntry] at h
      obtain ⟨⟨k, s'⟩, -, h⟩ := Option.bind_eq_some_iff.1 h
      obtain ⟨⟨v, rest'⟩, hv, h⟩ := Option.map_eq_some_iff.1 h
      obtain ⟨rfl, -⟩ := Prod.mk.inj h
      exact ih hv
    rw [readValue] at h
    obtain ⟨⟨v, rest'⟩, hv, h⟩ := Option.map_eq_some_iff.1 h
    obtain ⟨rfl, -⟩ := Prod.mk.inj h
    dsimp only at hv
    split at hv
    · obtain ⟨rfl, -⟩ := Prod.mk.inj (Option.some.inj hv)
      exact .boolean true
    · split at hv
      · obtain ⟨rfl, -⟩ := Prod.mk.inj (Option.some.inj hv)
        exact .boolean false
      · split at hv
        · obtain ⟨⟨entries, rest⟩, hread, hv⟩ := Option.map_eq_some_iff.1 hv
          obtain ⟨rfl, -⟩ := Prod.mk.inj hv
          exact ConfigTree.sorted_table_iff.2
            (ConfigTree.EntriesSorted.foldl_putEntry (mem_readItems hentry hread) .nil)
        · obtain ⟨⟨items, rest⟩, hread, hv⟩ := Option.map_eq_some_iff.1 hv
          obtain ⟨rfl, -⟩ := Prod.mk.inj hv
          exact .array (mem_readItems ih hread)
        · obtain ⟨⟨text, rest⟩, -, hv⟩ := Option.map_eq_some_iff.1 hv
          obtain ⟨rfl, -⟩ := Prod.mk.inj hv
          exact .string text
        · obtain ⟨rfl, -⟩ := Prod.mk.inj (Option.some.inj hv)
          exact .string _
        · cases hv
        · obtain ⟨rfl, -⟩ := Prod.mk.inj (Option.some.inj hv)
          exact sorted_plainValue _

theorem value_eq (text : String) :
    value text = match readValue (text.toList.length + 1) text.toList with
      | some (v, []) => v
      | _ => .string text := rfl

theorem sorted_value (text : String) : (value text).Sorted := by
  rw [value_eq]
  split
  · rename_i hread
    exact sorted_readValue hread
  · exact .string text

theorem sorted_tree (env : List (String × String)) : (tree env).Sorted := by
  refine List.foldlRecOn _ _ (motive := ConfigTree.Sorted) (ConfigTree.sorted_table_iff.2 .nil)
    fun t ht e _ => ?_
  split
  · exact ht.merge ((sorted_value e.2).nest _)
  · exact ht

end Environment

namespace Layer

open ConfigTree EntriesSorted in
theorem sorted_defaults : defaults.tree.Sorted :=
  have hitems : (array []).Sorted := .array (List.forall_mem_nil _)
  have hempty : (table []).Sorted := sorted_table_iff.2 nil
  have hactivation : EntriesSorted [("known_plugins", array []), ("last_selection", .null)] :=
    cons hitems (cons .null nil (by decide)) (by decide)
  have hdashboard : EntriesSorted
      [("container", .string DashboardSection.initial.container),
        ("log_level", .string DashboardSection.initial.logLevel),
        ("name", .string DashboardSection.initial.name)] :=
    cons (.string _) (cons (.string _) (cons (.string _) nil (by decide)) (by decide)) (by decide)
  have hflags : EntriesSorted [("enabled_experimental_plugins", array []), ("values", table [])] :=
    cons hitems (cons hempty nil (by decide)) (by decide)
  have hplugins : EntriesSorted [("manifests", array [])] := cons hitems nil (by decide)
  sorted_table_iff.2 <|
    cons (sorted_table_iff.2 hactivation) (cons (sorted_table_iff.2 hdashboard)
      (cons (sorted_table_iff.2 hflags) (cons (sorted_table_iff.2 hplugins)
        (cons hempty nil (by decide)) (by decide)) (by decide)) (by decide)) (by decide)

theorem sorted_ofSource {s : ConfigSource} {l : Layer} (h : ofSource s = .ok l) :
    l.tree.Sorted := by
  rw [ofSource] at h
  split at h
  · cases h
  · split at h
    · cases h
    · obtain rfl := Except.ok.inj h
      exact ConfigTree.sorted_ofToml _

theorem sorted_mergeAll {layers : List Layer} (h : ∀ l ∈ layers, l.tree.Sorted) :
    (mergeAll layers).Sorted := by
  exact List.foldlRecOn _ _ (motive := ConfigTree.Sorted) (ConfigTree.sorted_table_iff.2 .nil)
    fun t ht l hl => ht.merge (h l hl)

end Layer

/-! ### Reading structures -/

namespace Data

variable {σ α : Type} {P : α → Prop} {Q : σ → Prop}

/-- What all fields of a structure keep holds of every structure that is read. -/
def Layout.Keeps (l : Layout σ α) (Q : σ → Prop) (P : α → Prop) : Prop :=
  ∀ f ∈ l.fields, ∀ {v a a'}, Q v → P a → f.read v a = .ok a' → P a'

theorem Layout.of_readEntries {l : Layout σ α} (hl : l.Keeps Q P) {entries : List (String × σ)}
    (hentries : ∀ e ∈ entries, Q e.2) {a a' : α} (ha : P a) (h : l.readEntries a entries = .ok a') :
    P a' := by
  induction entries generalizing a with
  | nil => exact Except.ok.inj h ▸ ha
  | cons e entries ih =>
    obtain ⟨he, hrest⟩ := List.forall_mem_cons.1 hentries
    rw [Layout.readEntries] at h
    split at h
    · rename_i f hf
      split at h
      · cases h
      · rename_i hread
        exact ih hrest (hl f (List.mem_of_find?_eq_some hf) he ha hread) h
    · split at h
      · cases h
      · exact ih hrest ha h

theorem Layout.of_readItems {fields : List (Field σ α)}
    (hl : ∀ f ∈ fields, ∀ {v a a'}, Q v → P a → f.read v a = .ok a' → P a') {expectation : String}
    {i : Nat} {items : List σ} (hitems : ∀ v ∈ items, Q v) {a a' : α} (ha : P a)
    (h : readItems expectation i fields items a = .ok a') : P a' := by
  induction fields generalizing i items a with
  | nil =>
    rw [Layout.readItems] at h
    exact Except.ok.inj h ▸ ha
  | cons f fields ih =>
    obtain ⟨hf, hrest⟩ := List.forall_mem_cons.1 hl
    cases items with
    | nil =>
      rw [Layout.readItems] at h
      split at h
      · exact ih hrest hitems ha h
      · cases h
    | cons v items =>
      obtain ⟨hv, hitems⟩ := List.forall_mem_cons.1 hitems
      rw [Layout.readItems] at h
      split at h
      · cases h
      · rename_i hread
        exact ih hrest hitems (hf hv ha hread) h

theorem Layout.of_decode [Readable σ] {l : Layout σ α} (hl : l.Keeps Q P) (hinitial : P l.initial)
    {v : σ} (hmapping : ∀ entries, Readable.shape v = .mapping entries → ∀ e ∈ entries, Q e.2)
    (hsequence : ∀ items, Readable.shape v = .sequence items → ∀ v ∈ items, Q v) {a : α}
    (h : l.decode v = .ok a) : P a := by
  rw [Layout.decode] at h
  split at h
  · rename_i entries hshape
    rw [Layout.ofMapping] at h
    split at h
    · cases h
    · rename_i hread
      split at h
      · cases h
      · exact Except.ok.inj h ▸
          Layout.of_readEntries hl (hmapping entries hshape) hinitial hread
  · rename_i items hshape
    rw [Layout.ofSequence] at h
    split at h
    · cases h
    · rename_i hread
      split at h
      · cases h
      · exact Except.ok.inj h ▸
          Layout.of_readItems hl (hsequence items hshape) hinitial hread
  · cases h

theorem Field.of_read {β : Type} {name : String} {presence : Presence} {d : Decoder σ β}
    {set : α → β → α} {v : σ} {a a' : α} (h : (Field.of name presence d set).read v a = .ok a') :
    ∃ b, d v = .ok b ∧ a' = set a b := by
  change set a <$> d v = .ok a' at h
  cases hd : d v with
  | error e =>
    rw [hd] at h
    cases h
  | ok b =>
    rw [hd] at h
    exact ⟨b, rfl, (Except.ok.inj h).symm⟩

theorem Decoder.of_addEntries {d : Decoder σ α} (hd : ∀ {v a}, Q v → d v = .ok a → P a)
    {entries : List (String × σ)} (hentries : ∀ e ∈ entries, Q e.2) {m m' : KeyMap α}
    (hm : ∀ e ∈ m.entries, P e.2) (h : addEntries d m entries = .ok m') :
    ∀ e ∈ m'.entries, P e.2 := by
  induction entries generalizing m with
  | nil =>
    rw [addEntries] at h
    exact Except.ok.inj h ▸ hm
  | cons e entries ih =>
    obtain ⟨he, hrest⟩ := List.forall_mem_cons.1 hentries
    rw [addEntries] at h
    split at h
    · cases h
    · rename_i a ha
      refine ih hrest (fun e' he' => ?_) h
      rcases mem_putEntry he' with rfl | he'
      · exact hd he ha
      · exact hm e' he'

end Data

/-! ### The settings of an accepted configuration -/

namespace ConfigTree

theorem Sorted.of_mapping {t : ConfigTree} (h : t.Sorted) {entries : List (String × ConfigTree)}
    (hshape : Readable.shape t = .mapping entries) : ∀ e ∈ entries, e.2.Sorted := by
  cases h with
  | table _ h =>
    obtain rfl := Shape.mapping.inj hshape
    exact h
  | _ => cases hshape

theorem Sorted.of_sequence {t : ConfigTree} (h : t.Sorted) {items : List ConfigTree}
    (hshape : Readable.shape t = .sequence items) : ∀ t ∈ items, t.Sorted := by
  cases h with
  | array h =>
    obtain rfl := Shape.sequence.inj hshape
    exact h
  | _ => cases hshape

end ConfigTree

namespace Config

/-- Settings are read as the JSON of what stands there. -/
theorem canonical_of_keyMap {t : ConfigTree} (ht : t.Sorted) {m : KeyMap Json}
    (h : Decoder.keyMap Decoder.json t = .ok m) : ∀ e ∈ m.entries, e.2.Canonical := by
  rw [Decoder.keyMap] at h
  split at h
  · rename_i entries hshape
    refine Decoder.of_addEntries (Q := ConfigTree.Sorted) (fun hv ha => ?_) (ht.of_mapping hshape)
      (List.forall_mem_nil _) h
    exact Except.ok.inj ha ▸ hv.canonical_toJson
  · cases h

/-- The settings of a configuration that was read are the JSON of parts of what was read. -/
theorem canonical_settings_of_decoder {t : ConfigTree} (ht : t.Sorted) {c : Config}
    (h : decoder t = .ok c) : ∀ e ∈ c.settings.entries, e.2.Canonical := by
  refine Layout.of_decode (Q := ConfigTree.Sorted)
    (P := fun c : Config => ∀ e ∈ c.settings.entries, e.2.Canonical) ?_
    (List.forall_mem_nil _) (fun _ => ht.of_mapping) (fun _ => ht.of_sequence) h
  intro f hf v a a' hv ha hread
  simp only [layout, List.mem_cons, List.not_mem_nil, or_false] at hf
  rcases hf with rfl | rfl | rfl | rfl | rfl <;> obtain ⟨b, hb, rfl⟩ := Field.of_read hread
  · exact ha
  · exact ha
  · exact canonical_of_keyMap hv hb
  · exact ha
  · exact ha

theorem sorted_readSources {sources : List ConfigSource} {layers : List Layer}
    (h : readSources sources = .ok layers) : ∀ l ∈ layers, l.tree.Sorted := by
  rw [readSources] at h
  split at h
  · obtain rfl := Except.ok.inj h
    intro l hl
    obtain ⟨result, hresult, hl⟩ := List.mem_filterMap.1 hl
    obtain ⟨source, -, rfl⟩ := List.mem_map.1 hresult
    split at hl
    · rename_i hsource
      obtain rfl := Option.some.inj hl
      exact Layer.sorted_ofSource hsource
    · cases hl
  · cases h

/-- The layers of a configuration, the weakest first. -/
def stack (documents : List Layer) (env : List (String × String)) : List Layer :=
  Layer.defaults :: documents ++ [⟨none, Environment.tree env⟩]

variable {sources : List ConfigSource} {documents : List Layer}
  {env : List (String × String)}

theorem sorted_stack (h : readSources sources = .ok documents) (env : List (String × String)) :
    ∀ l ∈ stack documents env, l.tree.Sorted := by
  intro l hl
  rcases List.mem_append.1 hl with hl | hl
  · rcases List.mem_cons.1 hl with rfl | hl
    · exact Layer.sorted_defaults
    · exact sorted_readSources h l hl
  · rw [List.mem_singleton.1 hl]
    exact Environment.sorted_tree env

theorem load_eq (h : readSources sources = .ok documents) (env : List (String × String)) :
    load sources env = ofLayers (stack documents env) sources := by
  rw [load, h]
  rfl

theorem check_eq (c : Config) :
    c.check = if c.violations = [] then .ok c else .error (c.violations.map .invalid) := by
  delta check
  split
  · rename_i h
    rw [if_pos h]
  · rename_i h
    rw [if_neg h]

theorem ofLayers_eq_ok_iff {layers : List Layer} {c : Config} :
    ofLayers layers sources = .ok c ↔
      decoder (Layer.mergeAll layers) = .ok c ∧ c.violations = [] := by
  rw [ofLayers]
  constructor
  · intro h
    split at h
    · cases h
    · rename_i hdecoder
      rw [check_eq] at h
      split at h
      · rename_i hviolations
        obtain rfl := Except.ok.inj h
        exact ⟨hdecoder, hviolations⟩
      · cases h
  · rintro ⟨hdecoder, hviolations⟩
    rw [hdecoder]
    exact (check_eq c).trans (if_pos hviolations)

/-- An accepted configuration breaks no rule, and its settings are JSON that comes from layers. -/
theorem of_load {c : Config} (h : load sources env = .ok c) :
    (∀ e ∈ c.settings.entries, e.2.Canonical) ∧ c.violations = [] := by
  cases hdocuments : readSources sources with
  | error errors =>
    rw [load, hdocuments] at h
    cases h
  | ok documents =>
    rw [load_eq hdocuments] at h
    obtain ⟨hdecoder, hviolations⟩ := ofLayers_eq_ok_iff.1 h
    exact ⟨canonical_settings_of_decoder (Layer.sorted_mergeAll (sorted_stack hdocuments env))
      hdecoder, hviolations⟩

/-! ### The only document -/

/-- The layers of a document that is not from a file, with no variables. -/
def documentLayers (entries : Toml.Entries) : List Layer :=
  [Layer.defaults, ⟨none, .ofToml (.table entries)⟩, ⟨none, Environment.tree []⟩]

theorem mergeAll_documentLayers (entries : Toml.Entries) :
    Layer.mergeAll (documentLayers entries) =
      Layer.defaults.tree.merge (.table (ConfigTree.entriesOfToml entries)) := by
  have hdefaults : ConfigTree.merge (.table []) Layer.defaults.tree = Layer.defaults.tree :=
    ConfigTree.merge_empty (ConfigTree.sorted_table_iff.1 Layer.sorted_defaults).increase
  have hempty (weak : List (String × ConfigTree)) :
      ConfigTree.merge (.table weak) (Environment.tree []) = .table weak := rfl
  rw [Layer.mergeAll, documentLayers]
  simp only [List.foldl_cons, List.foldl_nil, hdefaults, ConfigTree.ofToml]
  rw [Layer.defaults, ConfigTree.merge, hempty]

/-- A document is read over the defaults. -/
theorem ofText_eq_ofLayers {text : String} {entries : Toml.Entries}
    (h : parse? text = some entries) :
    ofText text = ofLayers (documentLayers entries) [⟨"<inline>", false, some text⟩] := by
  have hsource : readSources [⟨"<inline>", false, some text⟩] =
      .ok [⟨none, .ofToml (.table entries)⟩] := by
    simp [readSources, Layer.ofSource, h]
  rw [ofText, load, hsource]
  rfl

/-- What is not a document is not loaded. -/
theorem ofText_eq_error {text : String} (h : parse? text = none) :
    ofText text = .error [.notToml "<inline>"] := by
  simp [ofText, load, readSources, Layer.ofSource, h]

end Config

end Dashboard
