import Dashboard.Proofs.Config.KeyOffset
import Dashboard.Proofs.Config.Load

/-!
# Where unknown keys are reported

A key that a section does not have is reported with the path that leads to it, and that path ends
with the key itself. The place of the key is looked for below the header made from this path, not
below the header of its section. So the report points at the key only if a text that reads like the
header of a section named as the key stands somewhere before it.
-/

namespace Dashboard

open Data

/-! ### Unknown keys of structures -/

namespace Data

variable {σ α β : Type}

/-- The names of the fields of a structure. -/
def Layout.keys (l : Layout σ α) : List String := l.fields.map (·.name)

/-- Whether the error is about a key that no field has. -/
def DecodeError.IsUnknown (e : DecodeError) (name : String) (valid : List String) : Prop :=
  e.misfit = .unknownField name valid

/-- Whether the decoder takes whatever keys there are. -/
def Decoder.TakesAll (d : Decoder σ α) : Prop :=
  ∀ ⦃v e name valid⦄, d v = .error e → ¬e.IsUnknown name valid

theorem map_eq_error {f : α → β} {x : Except DecodeError α} {e : DecodeError}
    (h : f <$> x = .error e) : x = .error e := by
  cases x with
  | ok a => cases h
  | error e' => exact congrArg Except.error (Except.error.inj h)

namespace Decoder

variable {d : Decoder σ α}

theorem takesAll_items (hd : d.TakesAll) {i : Nat} {vs : List σ} {e : DecodeError} {name : String}
    {valid : List String} (h : items d i vs = .error e) : ¬e.IsUnknown name valid := by
  induction vs generalizing i with
  | nil => cases h
  | cons v vs ih =>
    rw [items] at h
    split at h
    · rename_i e' he'
      obtain rfl := Except.error.inj h
      exact fun hunknown => hd he' hunknown
    · exact ih (map_eq_error h)

theorem takesAll_addEntries (hd : d.TakesAll) {m : KeyMap α} {vs : List (String × σ)}
    {e : DecodeError} {name : String} {valid : List String} (h : addEntries d m vs = .error e) :
    ¬e.IsUnknown name valid := by
  induction vs generalizing m with
  | nil => cases h
  | cons v vs ih =>
    rw [addEntries] at h
    split at h
    · rename_i e' he'
      obtain rfl := Except.error.inj h
      exact fun hunknown => hd he' hunknown
    · exact ih h

variable [Readable σ]

theorem not_isUnknown_mismatch {v : σ} {expected : String} {e : DecodeError} {name : String}
    {valid : List String} (h : (mismatch v expected : Except DecodeError α) = .error e) :
    ¬e.IsUnknown name valid := by
  obtain rfl := Except.error.inj h
  rintro ⟨⟩

theorem takesAll_text : (text : Decoder σ String).TakesAll := by
  intro v e name valid h
  rw [text] at h
  split at h
  · cases h
  · exact not_isUnknown_mismatch h

theorem takesAll_boolean : (boolean : Decoder σ Bool).TakesAll := by
  intro v e name valid h
  rw [boolean] at h
  split at h
  · cases h
  · exact not_isUnknown_mismatch h

theorem takesAll_json : (json : Decoder σ Json).TakesAll := by
  intro v e name valid h
  cases h

theorem TakesAll.optional (hd : d.TakesAll) : (optional d).TakesAll := by
  intro v e name valid h
  rw [Decoder.optional] at h
  split at h
  · cases h
  · exact hd (map_eq_error h)

theorem TakesAll.list (hd : d.TakesAll) : (list d).TakesAll := by
  intro v e name valid h
  rw [Decoder.list] at h
  split at h
  · exact takesAll_items hd h
  · exact not_isUnknown_mismatch h

theorem TakesAll.keyMap (hd : d.TakesAll) : (keyMap d).TakesAll := by
  intro v e name valid h
  rw [Decoder.keyMap] at h
  split at h
  · exact takesAll_addEntries hd h
  · exact not_isUnknown_mismatch h

end Decoder

/-! #### Structures -/

/-- An unknown key of a structure is one of its own, or one of the value of a field. -/
inductive Layout.Unknown (l : Layout σ α) (name : String) (valid : List String)
    (entries : List (String × σ)) : List String → Prop
  | own {v : σ} (hv : (name, v) ∈ entries) (hname : name ∉ l.keys) (hvalid : valid = l.keys) :
    Unknown l name valid entries [name]
  | inner {f : Field σ α} {v : σ} (hv : (f.name, v) ∈ entries) (hf : f ∈ l.fields) {a : α}
    {e : DecodeError} (he : f.read v a = .error e) (hunknown : e.IsUnknown name valid) :
    Unknown l name valid entries (f.name :: e.path)

def Field.TakesAll (f : Field σ α) : Prop :=
  ∀ ⦃v a e name valid⦄, f.read v a = .error e → ¬e.IsUnknown name valid

theorem Decoder.TakesAll.field {d : Decoder σ β} (hd : d.TakesAll) (name : String)
    (presence : Presence) (set : α → β → α) : (Field.of name presence d set).TakesAll :=
  fun _ _ _ _ _ h => hd (map_eq_error h)

namespace Layout

variable {l : Layout σ α} {name : String} {valid : List String}

theorem Unknown.cons {entries : List (String × σ)} {path : List String}
    (h : l.Unknown name valid entries path) (e : String × σ) :
    l.Unknown name valid (e :: entries) path := by
  cases h with
  | own hv hname hvalid => exact .own (List.mem_cons_of_mem _ hv) hname hvalid
  | inner hv hf he hunknown => exact .inner (List.mem_cons_of_mem _ hv) hf he hunknown

theorem of_field? {key : String} {f : Field σ α} (h : l.field? key = some f) :
    f ∈ l.fields ∧ f.name = key := by
  have hname := List.find?_some h
  exact ⟨List.mem_of_find?_eq_some h, beq_iff_eq.1 hname⟩

theorem not_mem_keys_of_field? {key : String} (h : l.field? key = none) : key ∉ l.keys := by
  intro hmem
  obtain ⟨f, hf, rfl⟩ := List.mem_map.1 hmem
  exact List.find?_eq_none.1 h f hf (beq_self_eq_true _)

theorem unknown_of_readEntries {entries : List (String × σ)} {a : α} {e : DecodeError}
    (h : l.readEntries a entries = .error e) (he : e.IsUnknown name valid) :
    l.Unknown name valid entries e.path := by
  induction entries generalizing a with
  | nil => cases h
  | cons entry entries ih =>
    obtain ⟨key, v⟩ := entry
    rw [readEntries] at h
    split at h
    · rename_i f hf
      split at h
      · rename_i e' hread
        obtain rfl := Except.error.inj h
        obtain ⟨hfield, rfl⟩ := of_field? hf
        exact .inner List.mem_cons_self hfield hread he
      · exact (ih h).cons (key, v)
    · rename_i hf
      split at h
      · obtain rfl := Except.error.inj h
        obtain ⟨rfl, rfl⟩ := Misfit.unknownField.inj he
        exact .own List.mem_cons_self (not_mem_keys_of_field? hf) rfl
      · exact (ih h).cons (key, v)

theorem takesAll_readItems {fields : List (Field σ α)} (hfields : ∀ f ∈ fields, f.TakesAll)
    {expectation : String} {i : Nat} {items : List σ} {a : α} {e : DecodeError}
    (h : readItems expectation i fields items a = .error e) : ¬e.IsUnknown name valid := by
  induction fields generalizing i items a with
  | nil =>
    rw [readItems] at h
    cases h
  | cons f fields ih =>
    obtain ⟨hf, hrest⟩ := List.forall_mem_cons.1 hfields
    cases items with
    | nil =>
      rw [readItems] at h
      split at h
      · exact ih hrest h
      · obtain rfl := Except.error.inj h
        rintro ⟨⟩
    | cons v items =>
      rw [readItems] at h
      split at h
      · rename_i e' hread
        obtain rfl := Except.error.inj h
        exact fun hunknown => hf hread hunknown
      · exact ih hrest h

theorem unknown_of_ofMapping {entries : List (String × σ)} {e : DecodeError}
    (h : l.ofMapping entries = .error e) (he : e.IsUnknown name valid) :
    l.Unknown name valid entries e.path := by
  rw [ofMapping] at h
  split at h
  · rename_i e' hread
    obtain rfl := Except.error.inj h
    exact unknown_of_readEntries hread he
  · split at h
    · obtain rfl := Except.error.inj h
      cases he
    · cases h

variable [Readable σ]

/-- A structure whose fields take all keys reports an unknown key of its own. -/
theorem own_of_decode (hl : ∀ f ∈ l.fields, f.TakesAll) {v : σ} {e : DecodeError}
    (h : l.decode v = .error e) (he : e.IsUnknown name valid) :
    e.path = [name] ∧ name ∉ l.keys ∧ valid = l.keys ∧
      ∃ entries w, Readable.shape v = .mapping entries ∧ (name, w) ∈ entries := by
  rw [decode] at h
  split at h
  · rename_i entries hshape
    generalize hpath : e.path = path
    have hunknown : l.Unknown name valid entries path := hpath ▸ unknown_of_ofMapping h he
    cases hunknown with
    | own hv hname hvalid => exact ⟨rfl, hname, hvalid, entries, _, hshape, hv⟩
    | inner _ hf hread hunknown => exact absurd hunknown (hl _ hf hread)
  · rw [ofSequence] at h
    split at h
    · rename_i e' hread
      obtain rfl := Except.error.inj h
      exact absurd he (takesAll_readItems hl hread)
    · split at h
      · obtain rfl := Except.error.inj h
        cases he
      · cases h
  · exact absurd he (Decoder.not_isUnknown_mismatch h)

end Layout

end Data

/-! ### Unknown keys of configurations -/

namespace Config

/-- The sections that configurations have, by their path, each with the keys it may have. The first
is the document itself. -/
def sectionKeys : List (List String × List String) :=
  [([], (layout (σ := ConfigTree)).keys),
   (["dashboard"], (DashboardSection.layout (σ := ConfigTree)).keys),
   (["flags"], (FlagsSection.layout (σ := ConfigTree)).keys),
   (["activation"], (ActivationSection.layout (σ := ConfigTree)).keys),
   (["plugins"], (manifestsLayout (σ := ConfigTree)).keys)]

open Decoder

theorem takesAll_dashboard {σ : Type} [Readable σ] :
    ∀ f ∈ (DashboardSection.layout (σ := σ)).fields, f.TakesAll := by
  simp only [DashboardSection.layout, List.forall_mem_cons]
  exact ⟨takesAll_text.field .., takesAll_text.field .., takesAll_text.field ..,
    List.forall_mem_nil _⟩

theorem takesAll_flags {σ : Type} [Readable σ] :
    ∀ f ∈ (FlagsSection.layout (σ := σ)).fields, f.TakesAll := by
  simp only [FlagsSection.layout, List.forall_mem_cons]
  exact ⟨takesAll_text.list.field .., takesAll_boolean.keyMap.field .., List.forall_mem_nil _⟩

theorem takesAll_activation {σ : Type} [Readable σ] :
    ∀ f ∈ (ActivationSection.layout (σ := σ)).fields, f.TakesAll := by
  simp only [ActivationSection.layout, List.forall_mem_cons]
  exact ⟨takesAll_text.optional.field .., takesAll_text.list.field .., List.forall_mem_nil _⟩

theorem takesAll_plugins {σ : Type} [Readable σ] :
    ∀ f ∈ (manifestsLayout (σ := σ)).fields, f.TakesAll := by
  simp only [manifestsLayout, List.forall_mem_cons]
  exact ⟨takesAll_text.list.field .., List.forall_mem_nil _⟩

/-- An unknown key inside a field of a configuration is a key of the section that stands there. -/
theorem own_of_field {f : Field ConfigTree Config} (hf : f ∈ (layout (σ := ConfigTree)).fields)
    {v : ConfigTree} {c : Config} {e : DecodeError} (h : f.read v c = .error e) {name : String}
    {valid : List String} (he : e.IsUnknown name valid) :
    e.path = [name] ∧ ([f.name], valid) ∈ sectionKeys ∧ name ∉ valid ∧
      ∃ entries w, v = .table entries ∧ (name, w) ∈ entries := by
  have hsection {α : Type} {l : Layout ConfigTree α} (hl : ∀ f ∈ l.fields, f.TakesAll)
      (h : l.decode v = .error e) : e.path = [name] ∧ valid = l.keys ∧ name ∉ valid ∧
        ∃ entries w, v = .table entries ∧ (name, w) ∈ entries := by
    obtain ⟨hpath, hname, rfl, entries, w, hshape, hw⟩ := Layout.own_of_decode hl h he
    refine ⟨hpath, rfl, hname, entries, w, ?_, hw⟩
    cases v <;> cases hshape
    rfl
  simp only [layout, List.mem_cons, List.not_mem_nil, or_false] at hf
  rcases hf with rfl | rfl | rfl | rfl | rfl
  · obtain ⟨hpath, rfl, hrest⟩ := hsection takesAll_dashboard (map_eq_error h)
    exact ⟨hpath, by simp [sectionKeys, Field.of], hrest⟩
  · obtain ⟨hpath, rfl, hrest⟩ := hsection takesAll_flags (map_eq_error h)
    exact ⟨hpath, by simp [sectionKeys, Field.of], hrest⟩
  · exact absurd he (takesAll_json.keyMap (map_eq_error h))
  · obtain ⟨hpath, rfl, hrest⟩ := hsection takesAll_activation (map_eq_error h)
    exact ⟨hpath, by simp [sectionKeys, Field.of], hrest⟩
  · obtain ⟨hpath, rfl, hrest⟩ := hsection takesAll_plugins (map_eq_error h)
    exact ⟨hpath, by simp [sectionKeys, Field.of], hrest⟩

/-- An unknown key of a configuration stands in one of its sections, and the path that leads to it
ends with the key. -/
theorem unknown_of_decoder {entries : List (String × ConfigTree)}
    (hsorted : ConfigTree.EntriesSorted entries) {e : DecodeError}
    (h : decoder (ConfigTree.table entries) = .error e) {name : String} {valid : List String}
    (he : e.IsUnknown name valid) :
    ∃ s, e.path = s ++ [name] ∧ (s, valid) ∈ sectionKeys ∧ name ∉ valid ∧
      ((ConfigTree.table entries).at? (s ++ [name])).isSome := by
  have hunknown : layout.Unknown name valid entries e.path := Layout.unknown_of_ofMapping h he
  generalize hpath : e.path = path at hunknown
  cases hunknown with
  | own hv hname hvalid =>
    refine ⟨[], rfl, hvalid ▸ List.mem_cons_self, hvalid ▸ hname, ?_⟩
    rw [List.nil_append, ConfigTree.at?, findEntry_of_mem hsorted.increase hv]
    rfl
  | @inner f v hv hf a e' he' hunknown =>
    obtain ⟨hpath', hsection, hname, inner, w, rfl, hw⟩ := own_of_field hf he' hunknown
    refine ⟨[f.name], by rw [hpath', List.singleton_append], hsection, hname, ?_⟩
    have hinner := ConfigTree.sorted_table_iff.1 (hsorted.values _ hv)
    rw [List.singleton_append, ConfigTree.at?, findEntry_of_mem hsorted.increase hv,
      Option.bind_some, ConfigTree.at?, findEntry_of_mem hinner.increase hw]
    rfl

/-- The defaults have no unknown keys. -/
theorem at?_defaults_of_not_mem {s valid : List String} (hs : (s, valid) ∈ sectionKeys)
    {name : String} (hname : name ∉ valid) : Layer.defaults.tree.at? (s ++ [name]) = none := by
  have hnone {entries : List (String × ConfigTree)} (hkeys : entries.map (·.1) ⊆ valid) :
      (ConfigTree.table entries).at? [name] = none := by
    have hmissing : findEntry name entries = none :=
      findEntry_eq_none_iff.2 fun e he heq => hname (hkeys (heq ▸ List.mem_map_of_mem he))
    rw [ConfigTree.at?, hmissing]
    rfl
  simp only [sectionKeys, List.mem_cons, List.not_mem_nil, or_false, Prod.mk.injEq] at hs
  rcases hs with ⟨rfl, rfl⟩ | ⟨rfl, rfl⟩ | ⟨rfl, rfl⟩ | ⟨rfl, rfl⟩ | ⟨rfl, rfl⟩
  all_goals exact hnone (by decide)

theorem spanOf_documentLayers (entries : Toml.Entries) (text : String) (path : List String)
    (key : String) :
    spanOf (documentLayers entries) [⟨"<inline>", false, some text⟩] path key =
      (keyOffset? text path key).map fun o => ⟨"<inline>", o, key.utf8ByteSize⟩ := by
  have hfile : (Layer.origin? (documentLayers entries) path).bind (·.file) = none := by
    rw [Option.bind_eq_none_iff]
    intro l hl
    have hmem : l ∈ documentLayers entries :=
      List.mem_reverse.1 (List.mem_of_find?_eq_some hl)
    simp only [documentLayers, List.mem_cons, List.not_mem_nil, or_false] at hmem
    rcases hmem with rfl | rfl | rfl <;> rfl
  rw [Option.map_eq_bind]
  unfold spanOf
  rw [hfile]
  rfl

theorem of_misfitError_unknownKey {layers : List Layer} {sources : List ConfigSource}
    {e : DecodeError} {key : String} {suggestion : Option String} {valid : List String}
    {span : Option SourceSpan}
    (h : misfitError layers sources e = .unknownKey key suggestion valid span) :
    e.IsUnknown key valid ∧ suggestion = suggestKey key valid ∧
      span = spanOf layers sources e.path key := by
  rw [misfitError] at h
  split at h
  · rename_i hmisfit
    obtain ⟨rfl, rfl, rfl, rfl⟩ := ConfigError.unknownKey.inj h
    exact ⟨hmisfit, rfl, rfl⟩
  all_goals cases h

/-- An unknown key that is found in a document over the defaults is one of the document. -/
theorem unknown_of_document {entries : Toml.Entries} {e : DecodeError}
    (h : decoder (Layer.mergeAll (documentLayers entries)) = .error e) {name : String}
    {valid : List String} (he : e.IsUnknown name valid) :
    ∃ s, e.path = s ++ [name] ∧ (s, valid) ∈ sectionKeys ∧ name ∉ valid ∧
      ((ConfigTree.ofToml (.table entries)).at? (s ++ [name])).isSome := by
  have hdocument : (ConfigTree.ofToml (.table entries)).Sorted := ConfigTree.sorted_ofToml _
  have hmerged : (ConfigTree.merge Layer.defaults.tree (.ofToml (.table entries))).Sorted :=
    Layer.sorted_defaults.merge hdocument
  obtain ⟨merged, htree⟩ : ∃ merged,
      ConfigTree.merge Layer.defaults.tree (.ofToml (.table entries)) = .table merged := by
    rw [ConfigTree.ofToml, Layer.defaults, ConfigTree.merge]
    exact ⟨_, rfl⟩
  rw [mergeAll_documentLayers, ← ConfigTree.ofToml, htree] at h
  rw [htree] at hmerged
  obtain ⟨s, hpath, hs, hname, hat⟩ :=
    unknown_of_decoder (ConfigTree.sorted_table_iff.1 hmerged) h he
  refine ⟨s, hpath, hs, hname, ?_⟩
  rw [← htree] at hat
  rcases ConfigTree.isSome_at?_of_merge hdocument hat with hdefault | hgiven
  · rw [at?_defaults_of_not_mem hs hname] at hdefault
    cases hdefault
  · exact hgiven

/-- A document that is refused for an unknown key is refused for that key alone, which stands in a
section that does not have it. Its place is looked for below a header that names the key itself. -/
theorem unknownKey_of_ofText {text : String} {errors : List ConfigError}
    (h : ofText text = .error errors) {key : String} {suggestion : Option String}
    {valid : List String} {span : Option SourceSpan}
    (hmem : .unknownKey key suggestion valid span ∈ errors) :
    ∃ s entries, (s, valid) ∈ sectionKeys ∧ key ∉ valid ∧ Toml.parse? text = some entries ∧
      ((ConfigTree.ofToml (.table entries)).at? (s ++ [key])).isSome ∧
      errors = [.unknownKey key (suggestKey key valid) valid span] ∧
      span = (keyOffset? text (s ++ [key]) key).map
        fun o => ⟨"<inline>", o, key.utf8ByteSize⟩ := by
  cases hparse : Toml.parse? text with
  | none =>
    rw [ofText_eq_error hparse] at h
    obtain rfl := Except.error.inj h
    simp at hmem
  | some entries =>
    rw [ofText_eq_ofLayers hparse, ofLayers] at h
    split at h
    · rename_i e hdecoder
      obtain rfl := Except.error.inj h
      have herror := (List.mem_singleton.1 hmem).symm
      obtain ⟨hunknown, hsuggestion, hspan⟩ := of_misfitError_unknownKey herror
      obtain ⟨s, hpath, hs, hkey, hat⟩ := unknown_of_document hdecoder hunknown
      rw [spanOf_documentLayers, hpath] at hspan
      exact ⟨s, entries, hs, hkey, rfl, hat, by rw [herror, hsuggestion], hspan⟩
    · rw [check_eq] at h
      split at h
      · cases h
      · obtain rfl := Except.error.inj h
        obtain ⟨v, -, hv⟩ := List.mem_map.1 hmem
        cases hv

open KeyOffset

/-- A report of an unknown key points at a line that starts with the key if and only if the search
for it ends there, below a header `[s.key]` of a section that is named as the key. Without a text
that reads like this header it points nowhere. -/
theorem unknownKey_points_iff {text : String} {errors : List ConfigError}
    (h : ofText text = .error errors) {key : String} {suggestion : Option String}
    {valid : List String} {span : Option SourceSpan}
    (hmem : .unknownKey key suggestion valid span ∈ errors) :
    ∃ s entries, (s, valid) ∈ sectionKeys ∧ key ∉ valid ∧ Toml.parse? text = some entries ∧
      ((ConfigTree.ofToml (.table entries)).at? (s ++ [key])).isSome ∧
      errors = [.unknownKey key (suggestKey key valid) valid span] ∧
      (∀ before, IsKey key.toList → KeyAt key.toList text.toList before →
        (span = some ⟨"<inline>", byteLength before, key.utf8ByteSize⟩ ↔
          FindsAt text.toList (s ++ [key]) key.toList before)) ∧
      (span ≠ none →
        ∃ before, OccursAt (sectionHeader (s ++ [key])).toList text.toList before) := by
  obtain ⟨s, entries, hs, hkey, hparse, hat, herrors, hspan⟩ := unknownKey_of_ofText h hmem
  refine ⟨s, entries, hs, hkey, hparse, hat, herrors, ?_, ?_⟩
  · intro before hsearchable hbefore
    rw [hspan, ← keyOffset?_eq_byteLength_iff hsearchable hbefore.beginning]
    constructor
    · intro hplace
      obtain ⟨o, ho, hplace⟩ := Option.map_eq_some_iff.1 hplace
      rw [ho, (SourceSpan.mk.inj hplace).2.1]
    · intro ho
      rw [ho]
      rfl
  · intro hplaced
    obtain ⟨place, hplace⟩ := Option.ne_none_iff_exists'.1 hplaced
    rw [hspan] at hplace
    obtain ⟨o, ho, -⟩ := Option.map_eq_some_iff.1 hplace
    exact occursAt_of_keyOffset? (List.append_ne_nil_of_right_ne_nil s (List.cons_ne_nil key [])) ho

theorem ofText_of_unknown {text : String} {entries : Toml.Entries} {path : List String}
    {key : String} {valid : List String} (hparse : Toml.parse? text = some entries)
    (hdecoder : decoder (Layer.mergeAll (documentLayers entries)) =
      .error ⟨path, .unknownField key valid⟩) :
    ofText text = .error [.unknownKey key (suggestKey key valid) valid
      ((keyOffset? text path key).map fun o => ⟨"<inline>", o, key.utf8ByteSize⟩)] := by
  rw [ofText_eq_ofLayers hparse, ofLayers, hdecoder]
  simp only [misfitError, spanOf_documentLayers]

/-- A comment that reads like the header of a section named as the key lets the report point. -/
theorem unknownKey_points_announced :
    ∃ errors suggestion valid span,
      ofText "# [dashboard.nam]\n[dashboard]\nnam = 1\n" = .error errors ∧
      .unknownKey "nam" suggestion valid span ∈ errors ∧ IsKey "nam".toList ∧
      KeyAt "nam".toList "# [dashboard.nam]\n[dashboard]\nnam = 1\n".toList
        "# [dashboard.nam]\n[dashboard]\n".toList ∧
      span = some ⟨"<inline>", byteLength "# [dashboard.nam]\n[dashboard]\n".toList, 3⟩ := by
  have hparse : Toml.parse? "# [dashboard.nam]\n[dashboard]\nnam = 1\n" =
      some [("dashboard", .table [("nam", .integer 1)])] := by
    simp only [Toml.parse?, Toml.sections, String.reduceToList]
    rfl
  have hdecoder : decoder (Layer.mergeAll (documentLayers
      [("dashboard", .table [("nam", .integer 1)])])) =
      .error ⟨["dashboard", "nam"], .unknownField "nam" ["name", "log_level", "container"]⟩ := rfl
  have hload := ofText_of_unknown hparse hdecoder
  have hfeed : '\n' ∉ "nam".toList := by decide
  have hkey : IsKey "nam".toList := ⟨hfeed, 'n', ['a', 'm'], rfl, by decide⟩
  have hbefore : KeyAt "nam".toList "# [dashboard.nam]\n[dashboard]\nnam = 1\n".toList
      "# [dashboard.nam]\n[dashboard]\n".toList := ⟨by decide, " = 1\n".toList, rfl, rfl⟩
  have hfound : keyOffset? "# [dashboard.nam]\n[dashboard]\nnam = 1\n" ["dashboard", "nam"] "nam" =
      some (byteLength "# [dashboard.nam]\n[dashboard]\n".toList) := by decide +kernel
  refine ⟨_, _, _, _, hload, List.mem_cons_self, hkey, hbefore, ?_⟩
  obtain ⟨s, -, hs, -, -, -, -, hpoints, -⟩ :=
    unknownKey_points_iff hload List.mem_cons_self
  obtain rfl : s = ["dashboard"] := by
    simp only [sectionKeys, List.mem_cons, List.not_mem_nil, or_false, Prod.mk.injEq] at hs
    rcases hs with ⟨-, hkeys⟩ | ⟨hs, -⟩ | ⟨-, hkeys⟩ | ⟨-, hkeys⟩ | ⟨-, hkeys⟩
    · exact absurd hkeys (by decide)
    · exact hs
    · exact absurd hkeys (by decide)
    · exact absurd hkeys (by decide)
    · exact absurd hkeys (by decide)
  exact (hpoints _ hkey hbefore).2 ((keyOffset?_eq_byteLength_iff hkey hbefore.beginning).1 hfound)

/-- A key that is written once, in the line below the header of its section, is reported without a
place. -/
theorem unknownKey_unplaced :
    ∃ suggestion valid,
      ofText "[dashboard]\nnam = \"x\"\n" = .error [.unknownKey "nam" suggestion valid none] ∧
      KeyAt "nam".toList "[dashboard]\nnam = \"x\"\n".toList "[dashboard]\n".toList ∧
      ∀ before, OccursAt "nam".toList "[dashboard]\nnam = \"x\"\n".toList before →
        before = "[dashboard]\n".toList := by
  have hparse : Toml.parse? "[dashboard]\nnam = \"x\"\n" =
      some [("dashboard", .table [("nam", .string "x")])] := by
    simp only [Toml.parse?, Toml.sections, String.reduceToList]
    rfl
  have hdecoder : decoder (Layer.mergeAll (documentLayers
      [("dashboard", .table [("nam", .string "x")])])) =
      .error ⟨["dashboard", "nam"], .unknownField "nam" ["name", "log_level", "container"]⟩ := rfl
  have hload := ofText_of_unknown hparse hdecoder
  have hplace : keyOffset? "[dashboard]\nnam = \"x\"\n" ["dashboard", "nam"] "nam" = none := by
    decide +kernel
  have honce : ∀ n < 23,
      OccursAt "nam".toList "[dashboard]\nnam = \"x\"\n".toList
        ("[dashboard]\nnam = \"x\"\n".toList.take n) →
      "[dashboard]\nnam = \"x\"\n".toList.take n = "[dashboard]\n".toList := by
    unfold OccursAt
    decide
  rw [hplace] at hload
  refine ⟨_, _, hload, ⟨by decide, " = \"x\"\n".toList, rfl, rfl⟩, fun before hbefore => ?_⟩
  have hlength : before.length ≤ 22 := hbefore.beginning.length_le
  have htake := List.prefix_iff_eq_take.1 hbefore.beginning
  rw [htake] at hbefore ⊢
  exact honce _ (Nat.lt_succ_of_le hlength) hbefore

end Config

end Dashboard
