import Dashboard.Proofs.Toml.Tables
import Mathlib.Data.List.Nodup

/-!
# A document has each key once

Whatever adds to a table under construction changes what stands under a key in its place, or puts a
new key behind the others. A table that is taken out comes back under a key that is then new.
-/

namespace Dashboard.Toml

/-- A key that a table has keeps its place, and a new one comes last. -/
theorem keysOf_alter {key : String} {change : Option Node → Option Node} {nodes nodes' : Nodes}
    (h : alter key change nodes = some nodes') :
    keysOf nodes' = if key ∈ keysOf nodes then keysOf nodes else keysOf nodes ++ [key] := by
  induction nodes generalizing nodes' with
  | nil =>
    rw [alter, Option.map_eq_some_iff] at h
    obtain ⟨n, -, rfl⟩ := h
    rfl
  | cons e nodes ih =>
    obtain ⟨k, n⟩ := e
    rw [alter] at h
    split at h
    · obtain ⟨n', -, rfl⟩ := Option.map_eq_some_iff.1 h
      rename_i hk
      exact (if_pos (hk ▸ List.mem_cons_self)).symm
    · obtain ⟨rest, hrest, rfl⟩ := Option.map_eq_some_iff.1 h
      rename_i hk
      have hmem : key ∈ keysOf ((k, n) :: nodes) ↔ key ∈ keysOf nodes :=
        List.mem_cons.trans (or_iff_right (Ne.symm hk))
      show k :: keysOf rest = _
      simp only [hmem, ih hrest]
      split <;> rfl

variable {nodes nodes' : Nodes}

theorem nodup_alter {key : String} {change : Option Node → Option Node}
    (h : alter key change nodes = some nodes') (hnodup : (keysOf nodes).Nodup) :
    (keysOf nodes').Nodup := by
  rw [keysOf_alter h]
  split
  · exact hnodup
  · rename_i hkey
    exact List.nodup_append_comm.1 (List.nodup_cons.2 ⟨hkey, hnodup⟩)

theorem nodup_within {dotted : Bool} {change : TableKind → Nodes → Option Nodes}
    {path : List String} {kind : TableKind} (h : within dotted change path kind nodes = some nodes')
    (hchange : ∀ {nodes nodes'}, change kind nodes = some nodes' → (keysOf nodes).Nodup →
      (keysOf nodes').Nodup)
    (hnodup : (keysOf nodes).Nodup) : (keysOf nodes').Nodup := by
  cases path with
  | nil => exact hchange h hnodup
  | cons key path =>
    rw [within] at h
    exact nodup_alter h hnodup

theorem nodup_addValue {key : List String} {v : Value} (h : addValue key v nodes = some nodes')
    (hnodup : (keysOf nodes).Nodup) : (keysOf nodes').Nodup := by
  rw [addValue] at h
  split at h
  · cases h
  · refine nodup_within h (fun hadd => ?_) hnodup
    split at hadd
    · exact nodup_alter hadd
    · cases hadd

theorem nodup_addValues {pairs : List (List String × Value)}
    (h : addValues pairs nodes = some nodes') (hnodup : (keysOf nodes).Nodup) :
    (keysOf nodes').Nodup := by
  induction pairs generalizing nodes with
  | nil => exact Option.some.inj h ▸ hnodup
  | cons pair pairs ih =>
    obtain ⟨between, hfirst, hrest⟩ := Option.bind_eq_some_iff.1 h
    exact ih hrest (nodup_addValue hfirst hnodup)

theorem nodup_takeImplicit {key : String} {inner : Nodes}
    (h : takeImplicit key nodes = some (nodes', inner)) (hnodup : (keysOf nodes).Nodup) :
    (keysOf nodes').Nodup := by
  rw [takeImplicit] at h
  split at h
  · cases h
    exact hnodup
  · cases h
    exact hnodup.sublist (List.filter_sublist.map _)
  · cases h

theorem nodup_addTable {key : String} {pairs : List (List String × Value)}
    (h : addTable key pairs nodes = some nodes') (hnodup : (keysOf nodes).Nodup) :
    (keysOf nodes').Nodup := by
  obtain ⟨⟨rest, inner⟩, htake, h⟩ := Option.bind_eq_some_iff.1 h
  obtain ⟨inner, -, h⟩ := Option.bind_eq_some_iff.1 h
  exact nodup_alter h (nodup_takeImplicit htake hnodup)

theorem nodup_addElement {key : String} {pairs : List (List String × Value)}
    (h : addElement key pairs nodes = some nodes') (hnodup : (keysOf nodes).Nodup) :
    (keysOf nodes').Nodup := by
  obtain ⟨inner, -, h⟩ := Option.bind_eq_some_iff.1 h
  exact nodup_alter h hnodup

theorem nodup_addSection {s : Section} (h : addSection nodes s = some nodes')
    (hnodup : (keysOf nodes).Nodup) : (keysOf nodes').Nodup := by
  rw [addSection] at h
  split at h
  · exact nodup_addValues h hnodup
  · obtain ⟨key, -, h⟩ := Option.bind_eq_some_iff.1 h
    exact nodup_within h nodup_addTable hnodup
  · obtain ⟨key, -, h⟩ := Option.bind_eq_some_iff.1 h
    exact nodup_within h nodup_addElement hnodup

theorem nodup_sections {sections : List Section}
    (h : sections.foldlM addSection nodes = some nodes') (hnodup : (keysOf nodes).Nodup) :
    (keysOf nodes').Nodup := by
  induction sections generalizing nodes with
  | nil => exact Option.some.inj h ▸ hnodup
  | cons s sections ih =>
    rw [List.foldlM_cons] at h
    obtain ⟨between, hfirst, hrest⟩ := Option.bind_eq_some_iff.1 h
    exact ih hrest (nodup_addSection hfirst hnodup)

theorem map_nodesToEntries (nodes : Nodes) : (nodesToEntries nodes).map (·.1) = keysOf nodes := by
  induction nodes with
  | nil => rfl
  | cons e nodes ih => rw [nodesToEntries, List.map_cons, ih]; rfl

theorem nodup_of_parse? {text : String} {entries : Entries} (h : parse? text = some entries) :
    (entries.map (·.1)).Nodup := by
  obtain ⟨sections, -, h⟩ := Option.bind_eq_some_iff.1 h
  obtain ⟨nodes, hfold, h⟩ := Option.bind_eq_some_iff.1 h
  cases h
  rw [map_nodesToEntries]
  exact nodup_sections hfold List.nodup_nil

/-- What stands under a key of a document is one value. -/
theorem eq_of_mem_of_parse? {text : String} {entries : Entries} (h : parse? text = some entries)
    {key : String} {v w : Value} (hv : (key, v) ∈ entries) (hw : (key, w) ∈ entries) : v = w :=
  congrArg Prod.snd (List.inj_on_of_nodup_map (nodup_of_parse? h) hv hw rfl)

end Dashboard.Toml
