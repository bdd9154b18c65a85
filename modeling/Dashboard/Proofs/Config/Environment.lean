import Dashboard.Proofs.Config.Layers
import Dashboard.Proofs.Config.UnknownKey

/-!
# Which keys variables set

A variable is named after the section and the key that it sets, and the table of beginnings stands
in for the list of sections. What the proofs use of it is that beginnings have an underscore and no
point and paths a point and no underscore: so no beginning stands at the start of a path, and a key
that was translated once stays as it is. The table has no beginning for the settings. The name of
such a variable is taken for a key of the whole configuration, which has none of that name, and then
no configuration is loaded.
-/

namespace Dashboard

open Data

/-! ### Letter case -/

namespace Text

theorem lowerAsciiChar_lowerAsciiChar (c : Char) :
    lowerAsciiChar (lowerAsciiChar c) = lowerAsciiChar c := by
  by_cases hc : 'A' ≤ c ∧ c ≤ 'Z'
  · have hcapital : ∀ n < 26, lowerAsciiChar (lowerAsciiChar (Char.ofNat (65 + n))) =
        lowerAsciiChar (Char.ofNat (65 + n)) := by decide
    have hlow : 65 ≤ c.toNat := hc.1
    have hhigh : c.toNat ≤ 90 := hc.2
    have heq : c = Char.ofNat (65 + (c.toNat - 65)) := by
      rw [Nat.add_sub_cancel' hlow, Char.ofNat_toNat]
    rw [heq]
    exact hcapital _ (by omega)
  · have hsame : lowerAsciiChar c = c := if_neg hc
    rw [hsame, hsame]

theorem toList_lowerAscii (s : String) : (lowerAscii s).toList = s.toList.map lowerAsciiChar :=
  String.toList_ofList

theorem lowerAscii_append (s t : String) : lowerAscii (s ++ t) = lowerAscii s ++ lowerAscii t := by
  rw [← String.toList_inj, String.toList_append]
  simp only [toList_lowerAscii, String.toList_append, List.map_append]

theorem map_lowerAsciiChar_lowerAscii (s : String) :
    (lowerAscii s).toList.map lowerAsciiChar = (lowerAscii s).toList := by
  rw [toList_lowerAscii, List.map_map]
  exact List.map_congr_left fun c _ => lowerAsciiChar_lowerAsciiChar c

end Text

namespace Environment

open Text (lowerAscii lowerAsciiChar)

/-! ### The table of beginnings -/

/-- The path of a key of a section, given in small letters. Under the flags, the values have a table
of their own. -/
inductive PathOf : String → String → String → Prop
  | flagValue (name : String) : PathOf "flags" ("values_" ++ name) ("flags.values." ++ name)
  | other {part key : String} (h : part = "flags" → ¬"values_".toList <+: key.toList) :
    PathOf part key (part ++ "." ++ key)

theorem PathOf.eq_append {part key path : String} (h : PathOf part key path)
    (hne : part ≠ "flags") : path = part ++ "." ++ key := by
  cases h with
  | flagValue name => exact absurd rfl hne
  | other _ => rfl

theorem stripStart?_append (start tail : List Char) :
    stripStart? start (start ++ tail) = some tail := by
  simp [stripStart?]

theorem stripStart?_eq_none {start s : List Char} (h : ¬start <+: s) :
    stripStart? start s = none := by
  rw [stripStart?, if_neg (mt List.isPrefixOf_iff_prefix.1 h)]

theorem replaceStart_of_forall {key : List Char} {starts : List (String × String)}
    (h : ∀ e ∈ starts, ¬e.1.toList <+: key) : replaceStart key starts = key := by
  induction starts with
  | nil => rfl
  | cons e starts ih =>
    obtain ⟨he, hrest⟩ := List.forall_mem_cons.1 h
    rw [replaceStart, stripStart?_eq_none he]
    exact ih hrest

theorem replaceStart_cases (key : List Char) (starts : List (String × String)) :
    (∀ e ∈ starts, ¬e.1.toList <+: key) ∨
      ∃ e ∈ starts, ∃ tail, key = e.1.toList ++ tail ∧
        replaceStart key starts = e.2.toList ++ tail := by
  induction starts with
  | nil => exact .inl (List.forall_mem_nil _)
  | cons e starts ih =>
    by_cases he : e.1.toList <+: key
    · obtain ⟨tail, rfl⟩ := he
      refine .inr ⟨e, List.mem_cons_self, tail, rfl, ?_⟩
      rw [replaceStart, stripStart?_append]
    · rw [replaceStart, stripStart?_eq_none he]
      rcases ih with hnone | ⟨e', he', hreplaced⟩
      · exact .inl (List.forall_mem_cons.2 ⟨he, hnone⟩)
      · exact .inr ⟨e', List.mem_cons_of_mem _ he', hreplaced⟩

/-- Beginnings have an underscore and no point, and paths a point and no underscore. -/
theorem marks_sectionStarts : ∀ e ∈ sectionStarts,
    ('_' ∈ e.1.toList ∧ '.' ∉ e.1.toList) ∧ '.' ∈ e.2.toList ∧ '_' ∉ e.2.toList := by
  decide

theorem lower_sectionStarts : ∀ e ∈ sectionStarts, lowerAscii e.2 = e.2 := by
  decide

theorem not_isPrefix_path {e e' : String × String} (he : e ∈ sectionStarts)
    (he' : e' ∈ sectionStarts) (tail : List Char) : ¬e'.1.toList <+: e.2.toList ++ tail := by
  obtain ⟨-, hpoint, hno⟩ := marks_sectionStarts e he
  obtain ⟨⟨hunder, hno'⟩, -⟩ := marks_sectionStarts e' he'
  intro hprefix
  rcases List.prefix_or_prefix_of_prefix hprefix (List.prefix_append _ tail) with h | h
  · exact hno (h.subset hunder)
  · exact hno' (h.subset hpoint)

theorem toList_key (name : String) :
    (key name).toList = replaceStart (lowerAscii name).toList sectionStarts :=
  String.toList_ofList

theorem key_of_forall {name : String}
    (h : ∀ e ∈ sectionStarts, ¬e.1.toList <+: (lowerAscii name).toList) :
    key name = lowerAscii name := by
  rw [← String.toList_inj, toList_key, replaceStart_of_forall h]

theorem lowerAscii_key (name : String) : lowerAscii (key name) = key name := by
  rw [← String.toList_inj, Text.toList_lowerAscii, toList_key]
  rcases replaceStart_cases (lowerAscii name).toList sectionStarts with h | ⟨e, he, tail, hkey, h⟩
  · rw [replaceStart_of_forall h, Text.map_lowerAsciiChar_lowerAscii]
  · have hlower := Text.map_lowerAsciiChar_lowerAscii name
    rw [hkey, List.map_append] at hlower
    have hpath := congrArg String.toList (lower_sectionStarts e he)
    rw [Text.toList_lowerAscii] at hpath
    have htail := (List.append_inj hlower (by simp)).2
    rw [h, List.map_append, hpath, htail]

theorem key_key (name : String) : key (key name) = key name := by
  have hrest : ∀ e ∈ sectionStarts, ¬e.1.toList <+: (key name).toList := by
    rw [toList_key]
    rcases replaceStart_cases (lowerAscii name).toList sectionStarts with h | ⟨e, he, tail, -, h⟩
    · rwa [replaceStart_of_forall h]
    · rw [h]
      exact fun e' he' => not_isPrefix_path he he' tail
  rw [key_of_forall (by rwa [lowerAscii_key]), lowerAscii_key]

/-! ### Sections -/

/-- The names of the sections. -/
def sections : List String := (Config.layout (σ := ConfigTree)).keys

theorem sections_eq : sections = ["dashboard", "flags", "settings", "activation", "plugins"] := rfl

theorem toList_named {start part k : String} (h : lowerAscii start = part) :
    (lowerAscii (start ++ "_" ++ k)).toList = part.toList ++ '_' :: (lowerAscii k).toList := by
  have hmark : lowerAscii "_" = "_" := by decide
  rw [Text.lowerAscii_append, Text.lowerAscii_append, h, hmark, String.toList_append,
    String.toList_append, List.append_assoc]
  rfl

theorem replaceStart_named {part k : String} (hpart : part ∈ sections) (hne : part ≠ "settings")
    {path : String} (hpath : PathOf part k path) :
    replaceStart (part.toList ++ '_' :: k.toList) sectionStarts = path.toList := by
  rw [sections_eq] at hpart
  cases hpath with
  | flagValue name => simp [replaceStart, stripStart?, sectionStarts, List.isPrefixOf]
  | other h =>
    simp only [List.mem_cons, List.not_mem_nil, or_false] at hpart
    rcases hpart with rfl | rfl | rfl | rfl | rfl
    · simp [replaceStart, stripStart?, sectionStarts, List.isPrefixOf]
    · have hvalues := mt List.isPrefixOf_iff_prefix.1 (h rfl)
      simp at hvalues
      simp [replaceStart, stripStart?, sectionStarts, List.isPrefixOf, hvalues]
    · exact absurd rfl hne
    · simp [replaceStart, stripStart?, sectionStarts, List.isPrefixOf]
    · simp [replaceStart, stripStart?, sectionStarts, List.isPrefixOf]

theorem replaceStart_settings (k : List Char) :
    replaceStart ("settings".toList ++ '_' :: k) sectionStarts = "settings".toList ++ '_' :: k := by
  simp [replaceStart, stripStart?, sectionStarts, List.isPrefixOf]

theorem exists_section_of_start : ∀ e ∈ sectionStarts,
    ∃ part ∈ sections, part ≠ "settings" ∧ (part ++ "_").toList <+: e.1.toList := by
  rw [sections_eq]
  decide

/-- A name that says a section and a key of it stands for the path of that key if and only if the
section is not that of the settings. Other names are only written in small letters, letter case does
not matter, and what a name stands for stands for itself. -/
theorem key_reaches_iff (start k name : String) :
    (lowerAscii start ∈ sections → ∀ path, PathOf (lowerAscii start) (lowerAscii k) path →
      (key (start ++ "_" ++ k) = path ↔ lowerAscii start ≠ "settings")) ∧
    ((∀ part ∈ sections, part ≠ "settings" →
      ¬(part ++ "_").toList <+: (lowerAscii name).toList) → key name = lowerAscii name) ∧
    (∀ name', Text.eqIgnoringCase name name' = true → key name = key name') ∧
    key (key name) = key name := by
  refine ⟨fun hpart path hpath => ⟨fun hkey hsettings => ?_, fun hne => ?_⟩, fun h => ?_,
    fun name' h => ?_, key_key name⟩
  · rw [hsettings] at hpath
    rw [← String.toList_inj, toList_key, toList_named hsettings, replaceStart_settings,
      hpath.eq_append (by decide)] at hkey
    simp at hkey
  · rw [← String.toList_inj, toList_key, toList_named rfl]
    exact replaceStart_named hpart hne hpath
  · refine key_of_forall fun e he hprefix => ?_
    obtain ⟨part, hpart, hne, hstart⟩ := exists_section_of_start e he
    exact h part hpart hne (hstart.trans hprefix)
  · have heq : lowerAscii name = lowerAscii name' := eq_of_beq h
    rw [key, key, heq]

/-- Names in mixed case, with keys that begin like a section or go on with an underscore. -/
theorem key_reaches_named :
    key ("Flags" ++ "_" ++ "Values_Beta") = "flags.values.beta" ∧
    key ("ACTIVATION" ++ "_" ++ "FLAGS_VALUES_X") = "activation.flags_values_x" ∧
    key ("dashboard" ++ "_" ++ "_NAME") = "dashboard._name" ∧
    key "LOG_Level" = "log_level" := by
  have hflag := (key_reaches_iff "Flags" "Values_Beta" "LOG_Level").1 (by decide)
    _ (.flagValue "beta")
  have hactivation := (key_reaches_iff "ACTIVATION" "FLAGS_VALUES_X" "LOG_Level").1 (by decide)
    _ (.other fun h => absurd h (by decide))
  have hdashboard := (key_reaches_iff "dashboard" "_NAME" "LOG_Level").1 (by decide)
    _ (.other fun h => absurd h (by decide))
  have hnone := (key_reaches_iff "dashboard" "_NAME" "LOG_Level").2.1 (by decide)
  exact ⟨hflag.2 (by decide), hactivation.2 (by decide), hdashboard.2 (by decide), hnone⟩

end Environment

/-! ### Keys that are no section -/

namespace Text

theorem split_ne_nil (mark : Char) (s : List Char) : split mark s ≠ [] := by
  induction s with
  | nil => exact List.cons_ne_nil _ _
  | cons c s ih =>
    rw [split]
    split
    · exact List.cons_ne_nil _ _
    · split <;> exact List.cons_ne_nil _ _

end Text

namespace ConfigTree

theorem exists_mem_of_at? {t : ConfigTree} {key : String} (h : (t.at? [key]).isSome) :
    ∃ entries v, t = table entries ∧ (key, v) ∈ entries := by
  cases t with
  | table entries =>
    cases hfind : findEntry key entries with
    | none =>
      rw [at?, hfind] at h
      cases h
    | some v => exact ⟨entries, v, rfl, mem_of_findEntry hfind⟩
  | _ => cases h

/-- A table takes nothing away from the keys of what it is merged over. -/
theorem isSome_at?_merge_table {weak : ConfigTree} {strong : List (String × ConfigTree)}
    (hstrong : KeysIncrease strong) {key : String}
    (h : (weak.at? [key]).isSome ∨ ((table strong).at? [key]).isSome) :
    ((merge weak (table strong)).at? [key]).isSome := by
  rw [at?_cons, at?] at h
  rw [merge_table hstrong, at?, findEntry_mergeEntries hstrong]
  cases hold : findEntry key weak.entries <;> cases hnew : findEntry key strong <;>
    simp_all [at?]

end ConfigTree

namespace Environment

theorem path?_ne_nil {name : String} {path : List String} (h : path? name = some path) :
    path ≠ [] := by
  rw [path?] at h
  split at h
  · dsimp only at h
    split at h
    · cases h
    · obtain rfl := Option.some.inj h
      exact fun hnil => Text.split_ne_nil _ _ (List.map_eq_nil_iff.1 hnil)
  · cases h

/-- What one variable sets stays set, whatever the others set. -/
theorem isSome_at?_tree {env : List (String × String)} {name text key : String}
    {path : List String} (hmem : (name, text) ∈ env) (hpath : path? name = some (key :: path)) :
    ((tree env).at? [key]).isSome := by
  obtain ⟨before, after, hsplit⟩ := List.append_of_mem hmem
  rw [tree, hsplit, List.foldl_append, List.foldl_cons]
  refine List.foldlRecOn _ _ (motive := fun t : ConfigTree => (t.at? [key]).isSome) ?_
    fun t ht e _ => ?_
  · simp only [hpath, ConfigTree.nest]
    refine ConfigTree.isSome_at?_merge_table (List.pairwise_singleton _ _) (.inr ?_)
    simp [ConfigTree.at?, findEntry]
  · split
    · rename_i path' hpath'
      obtain ⟨k, path', rfl⟩ := List.exists_cons_of_ne_nil (path?_ne_nil hpath')
      exact ConfigTree.isSome_at?_merge_table (List.pairwise_singleton _ _) (.inl ht)
    · exact ht

end Environment

namespace Data

theorem Layout.mem_keys_of_readEntries {σ α : Type} [Readable σ] {l : Layout σ α}
    (hstrict : l.strict = true) {entries : List (String × σ)} {a a' : α}
    (h : l.readEntries a entries = .ok a') : ∀ e ∈ entries, e.1 ∈ l.keys := by
  induction entries generalizing a with
  | nil => exact List.forall_mem_nil _
  | cons e entries ih =>
    rw [readEntries] at h
    split at h
    · rename_i f hf
      split at h
      · cases h
      · obtain ⟨hf, hname⟩ := of_field? hf
        exact List.forall_mem_cons.2 ⟨hname ▸ List.mem_map_of_mem hf, ih h⟩
    · rw [if_pos hstrict] at h
      cases h

end Data

namespace Config

open Environment (sections path?)

theorem mem_sections_of_decoder {t : ConfigTree} {c : Config} (h : decoder t = .ok c) {key : String}
    (hkey : (t.at? [key]).isSome) : key ∈ sections := by
  obtain ⟨entries, v, rfl, hmem⟩ := ConfigTree.exists_mem_of_at? hkey
  rw [decoder, Layout.decode] at h
  change layout.ofMapping entries = .ok c at h
  rw [Layout.ofMapping] at h
  split at h
  · cases h
  · rename_i hread
    exact Layout.mem_keys_of_readEntries rfl hread _ hmem

/-- With a variable that sets a key of no section nothing is loaded. -/
theorem mem_sections_of_load {sources : List ConfigSource} {env : List (String × String)}
    {c : Config} (h : load sources env = .ok c) {name text key : String} {path : List String}
    (hmem : (name, text) ∈ env) (hpath : path? name = some (key :: path)) :
    key ∈ sections := by
  cases hdocuments : readSources sources with
  | error errors =>
    rw [load, hdocuments] at h
    cases h
  | ok documents =>
    rw [load_eq hdocuments] at h
    refine mem_sections_of_decoder (ofLayers_eq_ok_iff.1 h).1 ?_
    have hset := Environment.isSome_at?_tree hmem hpath
    have hsorted := Environment.sorted_tree env
    rw [stack, Layer.mergeAll_append, List.foldl_cons, List.foldl_nil]
    obtain ⟨entries, v, htree, -⟩ := ConfigTree.exists_mem_of_at? hset
    rw [htree] at hset hsorted ⊢
    exact ConfigTree.isSome_at?_merge_table (ConfigTree.sorted_table_iff.1 hsorted).increase
      (.inr hset)

end Config

/-- A variable for a key of the settings does not reach it, and no configuration is loaded. -/
theorem Environment.settings_unreached :
    "settings" ∈ sections ∧ PathOf "settings" "theme" "settings.theme" ∧
    key ("SETTINGS" ++ "_" ++ "THEME") = "settings_theme" ∧
    ∀ sources c, Config.load sources [("PLUGBOARD_SETTINGS_THEME", "dark")] ≠ .ok c := by
  refine ⟨by simp [sections_eq], .other fun h => absurd h (by decide), by decide,
    fun sources c h => ?_⟩
  have hmem := Config.mem_sections_of_load h List.mem_cons_self
    (show path? "PLUGBOARD_SETTINGS_THEME" = some ["settings_theme"] by rfl)
  exact absurd hmem (by simp [sections_eq])

end Dashboard
