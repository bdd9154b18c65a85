import Dashboard.Data.Decode
import Mathlib.Data.List.Basic
import Mathlib.Data.List.Forall2
import Mathlib.Data.List.Nodup

/-!
# Reading lists, maps and structures

A list is read when all its items are, and a map when its entries come in key order and all their
values are read. What is stated here of a value is only its outermost shape and how its parts are
read, so that it serves every format.
-/

namespace Dashboard.Data

/-! ### Entries in key order -/

theorem KeysIncrease.nodup {α : Type*} {entries : List (String × α)} (h : KeysIncrease entries) :
    (entries.map (·.1)).Nodup :=
  (List.pairwise_map.2 h).imp fun hlt => (String.ne_of_lt hlt)

theorem findEntry_eq_none_iff {α : Type*} {key : String} {entries : List (String × α)} :
    findEntry key entries = none ↔ ∀ e ∈ entries, e.1 ≠ key := by
  induction entries with
  | nil => exact iff_of_true rfl (List.forall_mem_nil _)
  | cons e entries ih =>
    rw [findEntry, List.forall_mem_cons, ← ih]
    by_cases h : e.1 = key
    · simp [h]
    · rw [if_neg h]
      exact (and_iff_right h).symm

/-- A key is found exactly under the entry that has it. -/
theorem findEntry_of_mem {α : Type*} {key : String} {value : α} {entries : List (String × α)}
    (hentries : KeysIncrease entries) (h : (key, value) ∈ entries) :
    findEntry key entries = some value := by
  induction entries with
  | nil => cases h
  | cons e entries ih =>
    obtain ⟨hlt, hrest⟩ := List.pairwise_cons.1 hentries
    rw [findEntry]
    rcases List.mem_cons.1 h with rfl | h
    · exact if_pos rfl
    · rw [if_neg (String.ne_of_lt (hlt _ h)), ih hrest h]

theorem mem_of_findEntry {α : Type*} {key : String} {value : α} {entries : List (String × α)}
    (h : findEntry key entries = some value) : (key, value) ∈ entries := by
  induction entries with
  | nil => cases h
  | cons e entries ih =>
    rw [findEntry] at h
    split at h
    · rename_i hkey
      obtain rfl := Option.some.inj h
      exact hkey ▸ List.mem_cons_self
    · exact List.mem_cons_of_mem e (ih h)

/-- Entries in key order are known from what is found under each key. -/
theorem KeysIncrease.ext {α : Type*} {entries entries' : List (String × α)}
    (h : KeysIncrease entries) (h' : KeysIncrease entries')
    (hfind : ∀ key, findEntry key entries = findEntry key entries') : entries = entries' := by
  have hmem (e : String × α) : e ∈ entries ↔ e ∈ entries' :=
    ⟨fun he => mem_of_findEntry ((hfind e.1).symm.trans (findEntry_of_mem h he)),
      fun he => mem_of_findEntry ((hfind e.1).trans (findEntry_of_mem h' he))⟩
  have hperm : entries.Perm entries' := (List.perm_ext_iff_of_nodup
    (List.Nodup.of_map _ h.nodup) (List.Nodup.of_map _ h'.nodup)).2 hmem
  exact hperm.eq_of_pairwise (fun _ _ _ _ hlt hgt => absurd hgt (String.lt_asymm hlt)) h h'

theorem putEntry_of_forall_lt {α : Type*} {key : String} {entries : List (String × α)}
    (h : ∀ e ∈ entries, e.1 < key) (value : α) :
    putEntry key value entries = entries ++ [(key, value)] := by
  induction entries with
  | nil => rfl
  | cons e entries ih =>
    obtain ⟨he, hrest⟩ := List.forall_mem_cons.1 h
    have hlt : ¬key < e.1 := String.lt_asymm he
    have hne : key ≠ e.1 := fun heq => String.lt_irrefl key (heq ▸ he)
    rw [putEntry, if_neg hlt, if_neg hne, ih hrest, List.cons_append]

theorem putEntry_of_forall_gt {α : Type*} {key : String} {entries : List (String × α)}
    (h : ∀ e ∈ entries, key < e.1) (value : α) :
    putEntry key value entries = (key, value) :: entries := by
  cases entries with
  | nil => rfl
  | cons e entries => rw [putEntry, if_pos (h e List.mem_cons_self)]

/-- Entries under different keys may be put in either order. -/
theorem putEntry_comm {α : Type*} {k l : String} (h : k ≠ l) (a b : α)
    (entries : List (String × α)) :
    putEntry k a (putEntry l b entries) = putEntry l b (putEntry k a entries) := by
  have htotal (s t : String) : s < t ∨ s = t ∨ t < s := by
    by_cases heq : s = t
    · exact .inr (.inl heq)
    · rcases String.le_total s t with hle | hle
      · exact .inl (String.not_le.1 fun hle' => heq (String.le_antisymm hle hle'))
      · exact .inr (.inr (String.not_le.1 fun hle' => heq (String.le_antisymm hle' hle)))
  induction entries with
  | nil => grind [putEntry, String.lt_asymm, String.lt_irrefl]
  | cons e entries ih => grind [putEntry, String.lt_trans, String.lt_asymm, String.lt_irrefl]

/-- An entry that comes after all the others in key order is put at the end. -/
theorem KeyMap.entries_insert {α : Type*} {m m' : KeyMap α} {e : String × α}
    {es : List (String × α)} (h : m'.entries = m.entries ++ e :: es) :
    (m.insert e.1 e.2).entries = m.entries ++ [e] := by
  have hsorted : KeysIncrease (m.entries ++ e :: es) := h ▸ m'.sorted
  exact putEntry_of_forall_lt
    (fun e' he' => (List.pairwise_append.1 hsorted).2.2 e' he' e List.mem_cons_self) e.2

theorem KeySet.foldl_add {es : List (String × Unit)} {s s' : KeySet}
    (hentries : s'.entries = s.entries ++ es) : (es.map (·.1)).foldl KeySet.add s = s' := by
  induction es generalizing s with
  | nil => exact KeyMap.ext (by rw [hentries, List.append_nil]; rfl)
  | cons e es ih =>
    refine ih ?_
    rw [KeySet.add, KeyMap.entries_insert hentries, List.append_assoc, List.singleton_append,
      hentries]

namespace Decoder

variable {σ α : Type} {d : Decoder σ α}

/-! ### Lists and maps -/

theorem items_eq {vs : List σ} {as : List α} (h : List.Forall₂ (fun v a => d v = .ok a) vs as)
    (i : Nat) : items d i vs = .ok as := by
  induction h generalizing i with
  | nil => rfl
  | cons hv _ ih =>
    rw [items, hv]
    simp only [ih]
    rfl

theorem addEntries_eq {vs : List (String × σ)} {es : List (String × α)} {m m' : KeyMap α}
    (h : List.Forall₂ (fun v e => v.1 = e.1 ∧ d v.2 = .ok e.2) vs es)
    (hentries : m'.entries = m.entries ++ es) : addEntries d m vs = .ok m' := by
  induction h generalizing m with
  | nil =>
    rw [addEntries]
    exact congrArg Except.ok (KeyMap.ext (by rw [hentries, List.append_nil]))
  | @cons v e vs es hv _ ih =>
    obtain ⟨key, value⟩ := v
    obtain ⟨rfl, hvalue⟩ := hv
    rw [addEntries, hvalue]
    refine ih ?_
    rw [KeyMap.entries_insert hentries, List.append_assoc, List.singleton_append, hentries]

variable [Readable σ]

theorem list_eq {v : σ} {vs : List σ} {as : List α} (hv : Readable.shape v = .sequence vs)
    (h : List.Forall₂ (fun v a => d v = .ok a) vs as) : list d v = .ok as := by
  rw [list, hv]
  exact items_eq h 0

theorem keyMap_eq {v : σ} {vs : List (String × σ)} {m : KeyMap α}
    (hv : Readable.shape v = .mapping vs)
    (h : List.Forall₂ (fun v e => v.1 = e.1 ∧ d v.2 = .ok e.2) vs m.entries) :
    keyMap d v = .ok m := by
  rw [keyMap, hv]
  exact addEntries_eq h rfl

theorem keySet_eq {v : σ} {vs : List σ} {s : KeySet} (hv : Readable.shape v = .sequence vs)
    (h : List.Forall₂ (fun v key => text v = .ok key) vs s.keys) : keySet v = .ok s := by
  rw [keySet, list_eq hv h]
  exact congrArg Except.ok (KeySet.foldl_add (s := .empty) rfl)

end Decoder

/-! ### Structures -/

theorem Field.read_of {σ α β : Type} {name : String} {presence : Presence} {d : Decoder σ β}
    {set : α → β → α} {v : σ} {b : β} (h : d v = .ok b) (a : α) :
    (Field.of name presence d set).read v a = .ok (set a b) := by
  show set a <$> d v = _
  rw [h]
  rfl

namespace Layout

variable {σ α : Type} [Readable σ] {l : Layout σ α} {v : σ} {a c : α}
  {entries : List (String × σ)}

omit [Readable σ] in
/-- The first entry sets its field, and the others are read after it. -/
theorem readEntries_cons {β : Type} {key name : String} {presence : Presence} {d : Decoder σ β}
    {set : α → β → α} {b : β} (hfield : l.field? key = some (.of name presence d set))
    (h : d v = .ok b) (hrest : l.readEntries (set a b) entries = .ok c) :
    l.readEntries a ((key, v) :: entries) = .ok c := by
  simp only [readEntries, hfield, Field.read_of h, hrest]

/-- A mapping that names every field is read entry by entry. -/
theorem decode_of_mapping (hv : Readable.shape v = .mapping entries)
    (hnamed : (l.fields.all fun f => entries.any (·.1 == f.name)) = true)
    (hread : l.readEntries l.initial entries = .ok a) : l.decode v = .ok a := by
  have hnone : (l.fields.find? fun f => f.presence == .required &&
      !entries.any (·.1 == f.name)) = none := by
    refine List.find?_eq_none.2 fun f hf => ?_
    rw [List.all_eq_true.1 hnamed f hf]
    simp
  rw [decode, hv]
  simp only [ofMapping, hread, hnone]

end Layout

end Dashboard.Data
