import Dashboard.Config.Tree
import Dashboard.Proofs.Data.Decode
import Mathlib.Data.List.Perm.Basic

/-!
# Layered values

The entries of a table come out in key order, in whatever order a document has them. Tables in key
order stay so when they are merged.
-/

namespace Dashboard

open Number Data

namespace ConfigTree

/-! ### Tables of a document -/

theorem entriesOfToml_perm {entries entries' : Toml.Entries} (h : entries.Perm entries')
    (hnodup : (entries.map (·.1)).Nodup) : entriesOfToml entries = entriesOfToml entries' := by
  induction h with
  | nil => rfl
  | cons e _ ih => rw [entriesOfToml, entriesOfToml, ih (List.nodup_cons.1 hnodup).2]
  | swap e e' entries =>
    have hne : e'.1 ≠ e.1 := fun heq => (List.nodup_cons.1 hnodup).1 (by simp [heq])
    simp only [entriesOfToml]
    exact putEntry_comm hne _ _ _
  | trans h _ ih ih' => rw [ih hnodup, ih' ((h.map (·.1)).nodup_iff.1 hnodup)]

/-- Entries that are read alike, one by one. -/
def Alike (entries entries' : Toml.Entries) : Prop :=
  List.Forall₂ (fun e e' => e.1 = e'.1 ∧ ofToml e.2 = ofToml e'.2) entries entries'

theorem Alike.refl (entries : Toml.Entries) : Alike entries entries :=
  List.forall₂_same.2 fun _ _ => ⟨rfl, rfl⟩

theorem Alike.append {a a' b b' : Toml.Entries} (h : Alike a a') (h' : Alike b b') :
    Alike (a ++ b) (a' ++ b') :=
  List.rel_append h h'

theorem Alike.entriesOfToml_eq {entries entries' : Toml.Entries} (h : Alike entries entries') :
    entriesOfToml entries = entriesOfToml entries' := by
  induction h with
  | nil => rfl
  | cons he _ ih => rw [entriesOfToml, entriesOfToml, ih, he.1, he.2]

theorem itemsOfToml_eq (items : List Toml.Value) : itemsOfToml items = items.map ofToml := by
  induction items with
  | nil => rfl
  | cons v items ih => rw [itemsOfToml, ih, List.map_cons]

theorem entriesOfToml_ne_nil {entries : Toml.Entries} (h : entries ≠ []) :
    entriesOfToml entries ≠ [] := by
  obtain ⟨e, entries, rfl⟩ := List.exists_cons_of_ne_nil h
  have hmem := findEntry_putEntry_self e.1 (ofToml e.2) (entriesOfToml entries)
  rw [entriesOfToml]
  intro hnil
  rw [hnil] at hmem
  exact absurd hmem (by simp [findEntry])

theorem entriesOfToml_eq_map {entries : Toml.Entries} (h : KeysIncrease entries) :
    entriesOfToml entries = entries.map fun e => (e.1, ofToml e.2) := by
  induction entries with
  | nil => rfl
  | cons e entries ih =>
    obtain ⟨hlt, hrest⟩ := List.pairwise_cons.1 h
    rw [entriesOfToml, ih hrest, List.map_cons, putEntry_of_forall_gt]
    rintro _ hmem
    obtain ⟨e', he', rfl⟩ := List.mem_map.1 hmem
    exact hlt e' he'

/-! ### Key order -/

/-- Whether all tables are in key order. -/
inductive Sorted : ConfigTree → Prop
  | null : Sorted .null
  | boolean (b : Bool) : Sorted (.boolean b)
  | signed (n : Int) : Sorted (.signed n)
  | unsigned (n : Nat) : Sorted (.unsigned n)
  | float (x : Binary64) : Sorted (.float x)
  | string (s : String) : Sorted (.string s)
  | array {items : List ConfigTree} (h : ∀ t ∈ items, Sorted t) : Sorted (.array items)
  | table {entries : List (String × ConfigTree)} (hsorted : KeysIncrease entries)
      (h : ∀ e ∈ entries, Sorted e.2) : Sorted (.table entries)

/-- Entries in key order of which all values are. -/
structure EntriesSorted (entries : List (String × ConfigTree)) : Prop where
  increase : KeysIncrease entries
  values : ∀ e ∈ entries, e.2.Sorted

theorem sorted_table_iff {entries : List (String × ConfigTree)} :
    (table entries).Sorted ↔ EntriesSorted entries := by
  constructor
  · intro h
    cases h with
    | table hsorted h => exact ⟨hsorted, h⟩
  · exact fun h => .table h.increase h.values

theorem EntriesSorted.nil : EntriesSorted [] :=
  ⟨List.Pairwise.nil, List.forall_mem_nil _⟩

theorem EntriesSorted.cons {key : String} {t : ConfigTree} {entries : List (String × ConfigTree)}
    (ht : t.Sorted) (h : EntriesSorted entries) (hlt : ∀ k ∈ entries.map (·.1), key < k) :
    EntriesSorted ((key, t) :: entries) where
  increase := List.pairwise_cons.2 ⟨fun _ he => hlt _ (List.mem_map_of_mem he), h.increase⟩
  values := List.forall_mem_cons.2 ⟨ht, h.values⟩

theorem EntriesSorted.putEntry {entries : List (String × ConfigTree)} (h : EntriesSorted entries)
    (key : String) {t : ConfigTree} (ht : t.Sorted) : EntriesSorted (putEntry key t entries) where
  increase := h.increase.putEntry key t
  values e he := by
    rcases mem_putEntry he with rfl | he
    · exact ht
    · exact h.values e he

theorem EntriesSorted.foldl_putEntry {added entries : List (String × ConfigTree)}
    (hadded : ∀ e ∈ added, e.2.Sorted) (h : EntriesSorted entries) :
    EntriesSorted (added.foldl (fun m e => Data.putEntry e.1 e.2 m) entries) := by
  exact List.foldlRecOn _ _ (motive := EntriesSorted) h
    fun _ hm e he => hm.putEntry e.1 (hadded e he)

mutual

theorem sorted_ofToml : ∀ v : Toml.Value, (ofToml v).Sorted
  | .string s => .string s
  | .integer n => .signed n
  | .float x => .float x
  | .boolean b => .boolean b
  | .datetime d => sorted_table_iff.2 (EntriesSorted.nil.putEntry _ (.string d.text))
  | .array items => .array (sorted_itemsOfToml items)
  | .table entries => sorted_table_iff.2 (sorted_entriesOfToml entries)

theorem sorted_itemsOfToml : ∀ items : List Toml.Value, ∀ t ∈ itemsOfToml items, t.Sorted
  | [] => List.forall_mem_nil _
  | v :: rest => List.forall_mem_cons.2 ⟨sorted_ofToml v, sorted_itemsOfToml rest⟩

theorem sorted_entriesOfToml : ∀ entries : List (String × Toml.Value),
    EntriesSorted (entriesOfToml entries)
  | [] => .nil
  | (k, v) :: rest => (sorted_entriesOfToml rest).putEntry k (sorted_ofToml v)

end

theorem sorted_of_findEntry {entries : List (String × ConfigTree)} (h : ∀ e ∈ entries, e.2.Sorted)
    {key : String} {t : ConfigTree} (ht : findEntry key entries = some t) : t.Sorted :=
  h _ (mem_of_findEntry ht)

mutual

theorem Sorted.merge {weak : ConfigTree} (hweak : weak.Sorted) :
    ∀ {strong : ConfigTree}, strong.Sorted → (merge weak strong).Sorted
  | .table strong, h => by
    cases weak with
    | table weak =>
      exact sorted_table_iff.2
        (EntriesSorted.merge (sorted_table_iff.1 hweak) (sorted_table_iff.1 h).values)
    | _ => exact h
  | .null, h => h
  | .boolean _, h => h
  | .signed _, h => h
  | .unsigned _, h => h
  | .float _, h => h
  | .string _, h => h
  | .array _, h => h

theorem EntriesSorted.merge {weak : List (String × ConfigTree)} (hweak : EntriesSorted weak) :
    ∀ {strong : List (String × ConfigTree)}, (∀ e ∈ strong, e.2.Sorted) →
      EntriesSorted (mergeEntries weak strong)
  | [], _ => hweak
  | (k, v) :: rest, h => by
    obtain ⟨hv, hrest⟩ := List.forall_mem_cons.1 h
    have hmerged : (match findEntry k weak with
        | some old => ConfigTree.merge old v
        | none => v).Sorted := by
      cases hold : findEntry k weak with
      | none => exact hv
      | some old => exact (sorted_of_findEntry hweak.values hold).merge hv
    exact (hweak.putEntry k hmerged).merge hrest

end

/-- Entries that come after all others in key order are added at the end. -/
theorem mergeEntries_of_keysIncrease {weak strong : List (String × ConfigTree)}
    (h : KeysIncrease (weak ++ strong)) : mergeEntries weak strong = weak ++ strong := by
  induction strong generalizing weak with
  | nil => rw [mergeEntries, List.append_nil]
  | cons e strong ih =>
    have hlt : ∀ e' ∈ weak, e'.1 < e.1 := fun e' he' =>
      (List.pairwise_append.1 h).2.2 e' he' e List.mem_cons_self
    have hnone : findEntry e.1 weak = none :=
      findEntry_eq_none_iff.2 fun e' he' => String.ne_of_lt (hlt e' he')
    rw [mergeEntries, hnone, putEntry_of_forall_lt hlt, List.append_cons weak e strong]
    exact ih (List.append_cons weak e strong ▸ h)

theorem merge_empty {entries : List (String × ConfigTree)} (h : KeysIncrease entries) :
    merge (table []) (table entries) = table entries := by
  rw [merge, mergeEntries_of_keysIncrease (by rwa [List.nil_append]), List.nil_append]

/-- A key of merged tables has the merged value if both have it, and else the value of the one that
has it. -/
theorem findEntry_mergeEntries {weak strong : List (String × ConfigTree)}
    (h : KeysIncrease strong) (key : String) :
    findEntry key (mergeEntries weak strong) =
      match findEntry key weak, findEntry key strong with
      | some old, some new => some (merge old new)
      | none, some new => some new
      | old?, none => old? := by
  induction strong generalizing weak with
  | nil =>
    rw [mergeEntries]
    cases findEntry key weak <;> rfl
  | cons e strong ih =>
    obtain ⟨hlt, hrest⟩ := List.pairwise_cons.1 h
    rw [mergeEntries, ih hrest, findEntry]
    by_cases hkey : e.1 = key
    · subst hkey
      have hnone : findEntry e.1 strong = none :=
        findEntry_eq_none_iff.2 fun e' he' => (String.ne_of_lt (hlt e' he')).symm
      rw [hnone, findEntry_putEntry_self, if_pos rfl]
      cases findEntry e.1 weak <;> rfl
    · rw [findEntry_putEntry_of_ne _ (Ne.symm hkey), if_neg hkey]

/-- What merged layers have at a path, one of them has. -/
theorem isSome_at?_of_merge {weak strong : ConfigTree} (hstrong : strong.Sorted)
    {path : List String} (h : ((merge weak strong).at? path).isSome) :
    (weak.at? path).isSome ∨ (strong.at? path).isSome := by
  induction path generalizing weak strong with
  | nil => exact .inr rfl
  | cons key path ih =>
    cases strong with
    | table strong =>
      cases weak with
      | table weak =>
        have hentries := sorted_table_iff.1 hstrong
        rw [merge, at?, findEntry_mergeEntries hentries.increase] at h
        rw [at?, at?]
        cases hold : findEntry key weak with
        | none =>
          rw [hold] at h
          cases hnew : findEntry key strong with
          | none =>
            rw [hnew] at h
            exact .inl h
          | some new =>
            rw [hnew] at h
            exact .inr h
        | some old =>
          rw [hold] at h
          cases hnew : findEntry key strong with
          | none =>
            rw [hnew] at h
            exact .inl h
          | some new =>
            rw [hnew] at h
            exact ih (sorted_of_findEntry hentries.values hnew) h
      | _ => exact .inr h
    | _ => exact .inr h

theorem Sorted.nest {t : ConfigTree} (h : t.Sorted) (path : List String) :
    (nest path t).Sorted := by
  induction path with
  | nil => exact h
  | cons k path ih => exact sorted_table_iff.2 (EntriesSorted.nil.putEntry k ih)

end ConfigTree

/-! ### JSON from layered values -/

/-- Whether all objects are in key order and all floating-point numbers finite. -/
inductive Json.Canonical : Json → Prop
  | null : Canonical .null
  | boolean (b : Bool) : Canonical (.boolean b)
  | integer (n : Int) : Canonical (.integer n)
  | float {x : Binary64} (h : x.isFinite = true) : Canonical (.float x)
  | string (s : String) : Canonical (.string s)
  | array {items : List Json} (h : ∀ j ∈ items, Canonical j) : Canonical (.array items)
  | object {entries : List (String × Json)} (hsorted : KeysIncrease entries)
      (h : ∀ e ∈ entries, Canonical e.2) : Canonical (.object entries)

namespace ConfigTree

theorem itemsToJson_eq (items : List ConfigTree) : itemsToJson items = items.map toJson := by
  induction items with
  | nil => rfl
  | cons t items ih => rw [itemsToJson, ih, List.map_cons]

theorem entriesToJson_eq (entries : List (String × ConfigTree)) :
    entriesToJson entries = entries.map fun e => (e.1, e.2.toJson) := by
  induction entries with
  | nil => rfl
  | cons e entries ih => rw [entriesToJson, ih, List.map_cons]

theorem keysIncrease_map {α β : Type} {entries : List (String × α)} (h : KeysIncrease entries)
    (f : String × α → β) : KeysIncrease (entries.map fun e => (e.1, f e)) :=
  List.pairwise_map.2 h

theorem Sorted.canonical_toJson {t : ConfigTree} (h : t.Sorted) : t.toJson.Canonical := by
  induction h with
  | null => exact .null
  | boolean b => exact .boolean b
  | signed n => exact .integer n
  | unsigned n => exact .integer n
  | float x =>
    rw [toJson]
    split
    · rename_i hx
      exact .float hx
    · exact .null
  | string s => exact .string s
  | array _ ih =>
    rw [toJson, itemsToJson_eq]
    exact .array (List.forall_mem_map.2 ih)
  | table hsorted _ ih =>
    rw [toJson, entriesToJson_eq]
    exact .object (keysIncrease_map hsorted _) (List.forall_mem_map.2 ih)

end ConfigTree

end Dashboard
