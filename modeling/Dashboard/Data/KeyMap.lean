/-!
# Maps kept in key order

Flags, settings and sets of identifiers are listed in the order of their keys, by code point. A map
is a list of entries with strictly increasing keys, so two maps with the same entries are equal.
-/

namespace Dashboard.Data

universe u v

/-- Puts `value` under `key` into a list of entries in key order, in place of an earlier value. -/
def putEntry {α : Type u} (key : String) (value : α) : List (String × α) → List (String × α)
  | [] => [(key, value)]
  | entry :: rest =>
    if key < entry.1 then (key, value) :: entry :: rest
    else if key = entry.1 then (key, value) :: rest
    else entry :: putEntry key value rest

def findEntry {α : Type u} (key : String) : List (String × α) → Option α
  | [] => none
  | entry :: rest => if entry.1 = key then some entry.2 else findEntry key rest

/-- Whether the keys are strictly increasing. -/
def KeysIncrease {α : Type u} (entries : List (String × α)) : Prop :=
  entries.Pairwise fun a b => a.1 < b.1

theorem mem_putEntry {α : Type u} {key : String} {value : α} {entries : List (String × α)}
    {e : String × α} (h : e ∈ putEntry key value entries) : e = (key, value) ∨ e ∈ entries := by
  induction entries with
  | nil => simpa [putEntry] using h
  | cons d rest ih =>
    simp only [putEntry] at h
    grind

theorem KeysIncrease.putEntry {α : Type u} (key : String) (value : α)
    {entries : List (String × α)} (h : KeysIncrease entries) :
    KeysIncrease (putEntry key value entries) := by
  induction entries with
  | nil => exact List.pairwise_singleton _ _
  | cons d rest ih =>
    have hd := List.pairwise_cons.1 h
    simp only [Data.putEntry]
    split
    · rename_i hlt
      exact List.pairwise_cons.2 ⟨fun e he => (List.mem_cons.1 he).elim (· ▸ hlt)
        fun he => String.lt_trans hlt (hd.1 e he), h⟩
    · split
      · rename_i _ heq
        exact List.pairwise_cons.2 ⟨fun e he => heq ▸ hd.1 e he, hd.2⟩
      · rename_i hlt hne
        refine List.pairwise_cons.2 ⟨fun e he => ?_, ih hd.2⟩
        rcases mem_putEntry he with rfl | he
        · rcases String.le_total key d.1 with hle | hle
          · exact absurd (String.le_antisymm hle (String.not_lt.1 hlt)) hne
          · exact String.not_le.1 fun hle' => hne (String.le_antisymm hle' hle)
        · exact hd.1 e he

theorem findEntry_putEntry_self {α : Type u} (key : String) (value : α)
    (entries : List (String × α)) : findEntry key (putEntry key value entries) = some value := by
  induction entries with
  | nil => simp [putEntry, findEntry]
  | cons d rest ih => grind [putEntry, findEntry]

theorem findEntry_putEntry_of_ne {α : Type u} {key other : String} (value : α)
    (h : other ≠ key) (entries : List (String × α)) :
    findEntry other (putEntry key value entries) = findEntry other entries := by
  induction entries with
  | nil => simp [putEntry, findEntry, h.symm]
  | cons d rest ih => grind [putEntry, findEntry]

/-- A map from strings, kept in key order. -/
structure KeyMap (α : Type u) where
  entries : List (String × α)
  sorted : KeysIncrease entries

namespace KeyMap

variable {α : Type u} {β : Type v}

instance [DecidableEq α] : DecidableEq (KeyMap α) := fun a b =>
  if h : a.entries = b.entries then
    .isTrue (by cases a; cases b; cases h; rfl)
  else .isFalse fun heq => h (heq ▸ rfl)

@[ext] theorem ext {a b : KeyMap α} (h : a.entries = b.entries) : a = b := by
  cases a; cases b; cases h; rfl

def empty : KeyMap α := ⟨[], List.Pairwise.nil⟩

instance : Inhabited (KeyMap α) := ⟨empty⟩

instance : EmptyCollection (KeyMap α) := ⟨empty⟩

/-- Puts `value` under `key`, in place of an earlier value. -/
def insert (m : KeyMap α) (key : String) (value : α) : KeyMap α :=
  ⟨putEntry key value m.entries, m.sorted.putEntry key value⟩

def get? (m : KeyMap α) (key : String) : Option α := findEntry key m.entries

def contains (m : KeyMap α) (key : String) : Bool := (m.get? key).isSome

def keys (m : KeyMap α) : List String := m.entries.map (·.1)

def isEmpty (m : KeyMap α) : Bool := m.entries.isEmpty

/-- The map of the given entries; of two under one key the later one stays. -/
def ofList (entries : List (String × α)) : KeyMap α :=
  entries.foldl (fun m e => m.insert e.1 e.2) empty

@[simp] theorem get?_empty (key : String) : (empty : KeyMap α).get? key = none := rfl

@[simp] theorem get?_insert_self (m : KeyMap α) (key : String) (value : α) :
    (m.insert key value).get? key = some value :=
  findEntry_putEntry_self key value m.entries

theorem get?_insert_of_ne (m : KeyMap α) {key other : String} (value : α) (h : other ≠ key) :
    (m.insert key value).get? other = m.get? other :=
  findEntry_putEntry_of_ne value h m.entries

end KeyMap

abbrev KeySet := KeyMap Unit

namespace KeySet

def add (s : KeySet) (key : String) : KeySet := s.insert key ()

def ofKeys (keys : List String) : KeySet := keys.foldl add KeyMap.empty

end KeySet

end Dashboard.Data
