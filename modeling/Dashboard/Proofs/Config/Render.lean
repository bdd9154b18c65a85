import Dashboard.Config.Render
import Dashboard.Proofs.Toml.Sections

/-!
# The document of a configuration

Which settings a document can hold, and what becomes of them there and back: a value that has a
document form is read as the same JSON. Plain values count how deep they are nested, the others how
many parts their header has.
-/

namespace Dashboard

open Data Toml

/-! ### JSON as a value of a document -/

theorem forall₂_of_itemsToToml {items : List Json} {vs : List Toml.Value}
    (h : itemsToToml items = .ok vs) : List.Forall₂ (fun j v => j.toToml = .ok v) items vs := by
  induction items generalizing vs with
  | nil =>
    rw [itemsToToml] at h
    exact Except.ok.inj h ▸ .nil
  | cons j items ih =>
    rw [itemsToToml] at h
    split at h
    · cases h
    · rename_i v hv
      split at h
      · cases h
      · rename_i hvs
        exact Except.ok.inj h ▸ .cons hv (ih hvs)

theorem forall₂_of_entriesToToml {entries : List (String × Json)} {read : Toml.Entries}
    (h : entriesToToml entries = .ok read) :
    List.Forall₂ (fun e w => e.1 = w.1 ∧ e.2.toToml = .ok w.2) entries read := by
  induction entries generalizing read with
  | nil =>
    rw [entriesToToml] at h
    exact Except.ok.inj h ▸ .nil
  | cons e entries ih =>
    rw [entriesToToml] at h
    split at h
    · cases h
    · rename_i v hv
      split at h
      · cases h
      · rename_i hread
        exact Except.ok.inj h ▸ .cons ⟨rfl, hv⟩ (ih hread)

/-- What has no form as an item keeps the whole array from having one. -/
theorem exists_error_of_itemsToToml {items : List Json} {e : RenderError}
    (h : itemsToToml items = .error e) : ∃ j ∈ items, ∃ e, j.toToml = .error e := by
  induction items generalizing e with
  | nil => cases h
  | cons j items ih =>
    rw [itemsToToml] at h
    split at h
    · rename_i hj
      exact ⟨j, List.mem_cons_self, _, hj⟩
    · split at h
      · rename_i hitems
        obtain ⟨j, hj, he⟩ := ih hitems
        exact ⟨j, List.mem_cons_of_mem _ hj, he⟩
      · cases h

theorem exists_error_of_entriesToToml {entries : List (String × Json)} {e : RenderError}
    (h : entriesToToml entries = .error e) : ∃ j ∈ entries, ∃ e, j.2.toToml = .error e := by
  induction entries generalizing e with
  | nil => cases h
  | cons j entries ih =>
    rw [entriesToToml] at h
    split at h
    · rename_i hj
      exact ⟨j, List.mem_cons_self, _, hj⟩
    · split at h
      · rename_i hentries
        obtain ⟨j, hj, he⟩ := ih hentries
        exact ⟨j, List.mem_cons_of_mem _ hj, he⟩
      · cases h

theorem Json.toToml_array {items : List Json} {v : Toml.Value} (h : (array items).toToml = .ok v) :
    ∃ vs, v = .array vs ∧ List.Forall₂ (fun j v => j.toToml = .ok v) items vs := by
  rw [toToml] at h
  split at h
  · rename_i hvs
    exact ⟨_, (Except.ok.inj h).symm, forall₂_of_itemsToToml hvs⟩
  · cases h

theorem Json.toToml_object {entries : List (String × Json)} {v : Toml.Value}
    (h : (object entries).toToml = .ok v) :
    ∃ read, v = .table read ∧
      List.Forall₂ (fun e w => e.1 = w.1 ∧ e.2.toToml = .ok w.2) entries read := by
  rw [toToml] at h
  split at h
  · rename_i hread
    exact ⟨_, (Except.ok.inj h).symm, forall₂_of_entriesToToml hread⟩
  · cases h

theorem Json.toToml_array_error {items : List Json} {e : RenderError}
    (h : (array items).toToml = .error e) : ∃ j ∈ items, ∃ e, j.toToml = .error e := by
  rw [toToml] at h
  split at h
  · cases h
  · rename_i hitems
    exact exists_error_of_itemsToToml hitems

theorem Json.toToml_object_error {entries : List (String × Json)} {e : RenderError}
    (h : (object entries).toToml = .error e) : ∃ j ∈ entries, ∃ e, j.2.toToml = .error e := by
  rw [toToml] at h
  split at h
  · cases h
  · rename_i hentries
    exact exists_error_of_entriesToToml hentries

/-! ### There and back -/

theorem map_fst_of_forall₂ {α β : Type} {R : α → β → Prop} {as : List (String × α)}
    {bs : List (String × β)} (h : List.Forall₂ (fun a b => a.1 = b.1 ∧ R a.2 b.2) as bs) :
    as.map (·.1) = bs.map (·.1) := by
  induction h with
  | nil => rfl
  | cons he _ ih => rw [List.map_cons, List.map_cons, he.1, ih]

theorem keysIncrease_of_map_fst {α β : Type} {as : List (String × α)} {bs : List (String × β)}
    (h : as.map (·.1) = bs.map (·.1)) (hsorted : KeysIncrease as) : KeysIncrease bs := by
  have hpairwise {γ : Type} (cs : List (String × γ)) :
      KeysIncrease cs ↔ (cs.map (·.1)).Pairwise (· < ·) := List.pairwise_map.symm
  rwa [hpairwise, ← h, ← hpairwise]

theorem back_of_forall₂ {α β : Type} {R : α → β → Prop} {P : β → Prop} {f : β → α} {as : List α}
    {bs : List β} (h : List.Forall₂ R as bs) (hback : ∀ a ∈ as, ∀ b, R a b → P b ∧ f b = a) :
    (∀ b ∈ bs, P b) ∧ bs.map f = as := by
  induction h with
  | nil => exact ⟨List.forall_mem_nil _, rfl⟩
  | @cons a b _ _ hab _ ih =>
    obtain ⟨ha, hrest⟩ := List.forall_mem_cons.1 hback
    obtain ⟨hb, hfb⟩ := ha b hab
    obtain ⟨hbs, hmap⟩ := ih hrest
    exact ⟨List.forall_mem_cons.2 ⟨hb, hbs⟩, by rw [List.map_cons, hfb, hmap]⟩

/-- The value of a document for a JSON value is printable, and it is read as that JSON value. -/
theorem Json.Canonical.back {j : Json} (hj : j.Canonical) {v : Toml.Value} (h : j.toToml = .ok v) :
    v.Sound ∧ (ConfigTree.ofToml v).toJson = j := by
  induction hj generalizing v with
  | null => cases h
  | boolean b => exact Except.ok.inj h ▸ ⟨.boolean b, rfl⟩
  | integer n =>
    rw [Json.toToml] at h
    split at h
    · exact Except.ok.inj h ▸ ⟨.integer n, rfl⟩
    · cases h
  | float hx =>
    exact Except.ok.inj h ▸ ⟨.float hx, by rw [ConfigTree.ofToml, ConfigTree.toJson, if_pos hx]⟩
  | string s => exact Except.ok.inj h ▸ ⟨.string s, rfl⟩
  | array _ ih =>
    obtain ⟨vs, rfl, hvs⟩ := Json.toToml_array h
    obtain ⟨hsound, hmap⟩ := back_of_forall₂ (f := fun v => (ConfigTree.ofToml v).toJson)
      hvs fun j hj v hv => ih j hj hv
    rw [ConfigTree.ofToml, ConfigTree.itemsOfToml_eq, ConfigTree.toJson,
      ConfigTree.itemsToJson_eq, List.map_map]
    exact ⟨.array hsound, congrArg Json.array hmap⟩
  | object hsorted _ ih =>
    obtain ⟨read, rfl, hread⟩ := Json.toToml_object h
    have hkeys := map_fst_of_forall₂ (R := fun j v => Json.toToml j = .ok v) hread
    obtain ⟨hsound, hmap⟩ := back_of_forall₂
      (f := fun e : String × Toml.Value => (e.1, (ConfigTree.ofToml e.2).toJson))
      (P := fun e => e.2.Sound) hread fun e he w hw =>
        ⟨(ih e he hw.2).1, Prod.ext hw.1.symm (ih e he hw.2).2⟩
    rw [ConfigTree.ofToml,
      ConfigTree.entriesOfToml_eq_map (keysIncrease_of_map_fst hkeys hsorted),
      ConfigTree.toJson, ConfigTree.entriesToJson_eq, List.map_map]
    exact ⟨.table (hkeys ▸ hsorted.nodup) hsound, congrArg Json.object hmap⟩

/-! ### What a document can hold -/

namespace Json

def isObject : Json → Bool
  | .object _ => true
  | _ => false

def members : Json → List (String × Json)
  | .object entries => entries
  | _ => []

/-- Whether a value is written under headers: a table, or an array of nothing but tables. -/
def isHeaded : Json → Bool
  | .object _ => true
  | .array items => !items.isEmpty && items.all isObject
  | _ => false

/-- The tables of a value that is written under headers. -/
def tables : Json → List (List (String × Json))
  | .object entries => [entries]
  | .array items => items.map members
  | _ => []

/-- Whether a value can be kept next to its key: without nulls, with integers of 64 bits, and with
arrays and tables nested at most `depth` deep. -/
def isInline : ℕ → Json → Bool
  | _, .null => false
  | _, .integer n => (inRange n).isSome
  | 0, .array _ => false
  | 0, .object _ => false
  | depth + 1, .array items => items.all (isInline depth)
  | depth + 1, .object entries => entries.all fun e => isInline depth e.2
  | _, _ => true

/-- Whether a value can be kept below a header with `parts` parts to spare. -/
def isStorable : ℕ → Json → Bool
  | 0, j => !j.isHeaded && j.isInline nestingLimit
  | parts + 1, j =>
    if j.isHeaded then j.tables.all fun entries => entries.all fun e => isStorable parts e.2
    else j.isInline nestingLimit

end Json

/-- Whether a document can hold the settings, which stand below a header of their own. -/
def Config.isStorable (c : Config) : Bool :=
  c.settings.entries.all fun e => e.2.isStorable (headerLimit - 1)

/-! ### What has no form in documents cannot be kept -/

theorem all_eq_of_forall₂ {α β : Type} {R : α → β → Prop} {p : α → Bool} {q : β → Bool}
    {as : List α} {bs : List β} (h : List.Forall₂ R as bs)
    (heq : ∀ a ∈ as, ∀ b, R a b → p a = q b) : as.all p = bs.all q := by
  induction h with
  | nil => rfl
  | @cons a b _ _ hab _ ih =>
    obtain ⟨ha, hrest⟩ := List.forall_mem_cons.1 heq
    rw [List.all_cons, List.all_cons, ha b hab, ih hrest]

theorem all_eq_false_of_mem {α : Type} {p : α → Bool} {as : List α} {a : α} (ha : a ∈ as)
    (h : p a = false) : as.all p = false :=
  List.all_eq_false.2 ⟨a, ha, by simp [h]⟩

namespace Json

theorem isInline_eq_false {j : Json} (hj : j.Canonical) {e : RenderError}
    (h : j.toToml = .error e) (depth : ℕ) : j.isInline depth = false := by
  induction hj generalizing e depth with
  | null => rw [isInline]
  | integer n =>
    rw [toToml] at h
    split at h
    · cases h
    · rename_i hn
      rw [isInline, inRange, if_neg fun h => hn h.2]
      rfl
  | boolean | float | string => cases h
  | array _ ih =>
    obtain ⟨j, hj, e, he⟩ := toToml_array_error h
    cases depth with
    | zero => rw [isInline]
    | succ depth => exact all_eq_false_of_mem hj (ih j hj he depth)
  | object _ _ ih =>
    obtain ⟨j, hj, e, he⟩ := toToml_object_error h
    cases depth with
    | zero => rw [isInline]
    | succ depth => exact all_eq_false_of_mem hj (ih j hj he depth)

theorem isStorable_of_not_isHeaded {j : Json} (h : j.isHeaded = false) (parts : ℕ) :
    j.isStorable parts = j.isInline nestingLimit := by
  cases parts with
  | zero => rw [isStorable, h, Bool.not_false, Bool.true_and]
  | succ parts => rw [isStorable, if_neg (by simp [h])]

theorem isStorable_object (parts : ℕ) (entries : List (String × Json)) :
    (object entries).isStorable (parts + 1) = entries.all fun e => e.2.isStorable parts := by
  rw [isStorable, if_pos (by rfl), tables, List.all_cons, List.all_nil, Bool.and_true]

theorem isStorable_array (parts : ℕ) {items : List Json} (h : (array items).isHeaded = true) :
    (array items).isStorable (parts + 1) = items.all (isStorable (parts + 1)) := by
  have hobjects : ∀ j ∈ items, j.isObject = true := by
    rw [isHeaded, Bool.and_eq_true] at h
    exact List.all_eq_true.1 h.2
  rw [isStorable, if_pos h, tables, List.all_map]
  refine all_eq_of_forall₂ (List.forall₂_same.2 fun j hj => ⟨rfl, hobjects j hj⟩ :
    List.Forall₂ (fun j j' => j = j' ∧ j.isObject = true) items items) fun j _ j' h => ?_
  obtain ⟨rfl, hobject⟩ := h
  cases j with
  | object entries => exact (isStorable_object parts entries).symm
  | _ => cases hobject

theorem isStorable_eq_false {j : Json} (hj : j.Canonical) {e : RenderError}
    (h : j.toToml = .error e) (parts : ℕ) : j.isStorable parts = false := by
  induction hj generalizing e parts with
  | array hc ih =>
    rename_i items
    cases hheaded : (array items).isHeaded with
    | false => rw [isStorable_of_not_isHeaded hheaded, isInline_eq_false (.array hc) h]
    | true =>
      obtain ⟨j, hj, e, he⟩ := toToml_array_error h
      cases parts with
      | zero => rw [isStorable, hheaded, Bool.not_true, Bool.false_and]
      | succ parts =>
        rw [isStorable_array parts hheaded]
        exact all_eq_false_of_mem hj (ih j hj he (parts + 1))
  | object _ _ ih =>
    obtain ⟨j, hj, e, he⟩ := toToml_object_error h
    cases parts with
    | zero => rfl
    | succ parts =>
      rw [isStorable_object]
      exact all_eq_false_of_mem hj (ih j hj he parts)
  | null => rw [isStorable_of_not_isHeaded rfl, isInline]
  | integer n => rw [isStorable_of_not_isHeaded rfl, isInline_eq_false (.integer n) h]
  | _ => cases h

/-! ### What has a form in documents is kept if the document can be read -/

theorem isTable_eq {j : Json} {v : Toml.Value} (h : j.toToml = .ok v) : v.isTable = j.isObject := by
  cases j with
  | null => cases h
  | integer n =>
    rw [toToml] at h
    split at h
    · exact Except.ok.inj h ▸ rfl
    · cases h
  | array items =>
    obtain ⟨vs, rfl, -⟩ := toToml_array h
    rfl
  | object entries =>
    obtain ⟨read, rfl, -⟩ := toToml_object h
    rfl
  | _ => exact Except.ok.inj h ▸ rfl

theorem isPlain_eq {j : Json} {v : Toml.Value} (h : j.toToml = .ok v) :
    v.isPlain = !j.isHeaded := by
  cases j with
  | null => cases h
  | integer n =>
    rw [toToml] at h
    split at h
    · exact Except.ok.inj h ▸ rfl
    · cases h
  | array items =>
    obtain ⟨vs, rfl, hvs⟩ := toToml_array h
    have hall := all_eq_of_forall₂ hvs fun j _ v hv => (isTable_eq hv).symm
    have hempty : items.isEmpty = vs.isEmpty := by cases hvs <;> rfl
    rw [Toml.Value.isPlain, isHeaded, hall, hempty, Bool.not_and, Bool.not_not]
  | object entries =>
    obtain ⟨read, rfl, -⟩ := toToml_object h
    rfl
  | _ => exact Except.ok.inj h ▸ rfl

theorem isInline_eq {j : Json} (hj : j.Canonical) {v : Toml.Value} (h : j.toToml = .ok v)
    (depth : ℕ) : j.isInline depth = v.fits depth := by
  induction hj generalizing v depth with
  | null => cases h
  | integer n =>
    rw [toToml] at h
    split at h
    · obtain rfl := Except.ok.inj h
      rw [isInline, Toml.Value.fits]
    · cases h
  | boolean | float | string => exact Except.ok.inj h ▸ by simp [isInline, Toml.Value.fits]
  | array _ ih =>
    obtain ⟨vs, rfl, hvs⟩ := toToml_array h
    cases depth with
    | zero => rw [isInline, Toml.Value.fits]
    | succ depth => exact all_eq_of_forall₂ hvs fun j hj v hv => ih j hj hv depth
  | object _ _ ih =>
    obtain ⟨read, rfl, hread⟩ := toToml_object h
    cases depth with
    | zero => rw [isInline, Toml.Value.fits]
    | succ depth => exact all_eq_of_forall₂ hread fun e he w hw => ih e he hw.2 depth

theorem isStorable_eq_of_not_isHeaded {j : Json} (hj : j.Canonical) {v : Toml.Value}
    (h : j.toToml = .ok v) (hheaded : j.isHeaded = false) (key : String) (parts : ℕ) :
    j.isStorable parts = entryFits parts (key, v) := by
  rw [isStorable_of_not_isHeaded hheaded, isInline_eq hj h, entryFits, isPlain_eq h, hheaded,
    if_pos (by rfl)]

/-- A value can be kept exactly if what is printed for it can be read. -/
theorem isStorable_eq {j : Json} (hj : j.Canonical) {v : Toml.Value} (h : j.toToml = .ok v)
    (key : String) (parts : ℕ) : j.isStorable parts = entryFits parts (key, v) := by
  induction hj generalizing v key parts with
  | array hc ih =>
    rename_i items
    cases hheaded : (array items).isHeaded with
    | false =>
      exact isStorable_eq_of_not_isHeaded (.array hc) h hheaded key parts
    | true =>
      have hplain : v.isPlain = false := by rw [isPlain_eq h, hheaded, Bool.not_true]
      rw [entryFits, if_neg (by simp [hplain])]
      cases parts with
      | zero =>
        rw [all_valueSections_zero ((Canonical.array hc).back h).1 hplain, isStorable, hheaded,
          Bool.not_true, Bool.false_and]
      | succ parts =>
        obtain ⟨vs, rfl, hvs⟩ := toToml_array h
        obtain ⟨tables, hne, rfl⟩ := exists_tables hplain
        rw [isStorable_array parts hheaded, all_valueSections_tables key parts hne]
        refine all_eq_of_forall₂ (List.forall₂_map_right_iff.1 hvs) fun j hj t ht => ?_
        rw [ih j hj ht key (parts + 1), entryFits, if_neg (by simp [Toml.Value.isPlain]),
          all_valueSections_table]
  | object hsorted hc ih =>
    obtain ⟨read, rfl, hread⟩ := toToml_object h
    rw [entryFits, if_neg (by simp [Toml.Value.isPlain])]
    cases parts with
    | zero =>
      rw [all_valueSections_zero ((Canonical.object hsorted hc).back h).1 rfl]
      rfl
    | succ parts =>
      rw [isStorable_object, all_valueSections_table]
      exact all_eq_of_forall₂ hread fun e he w hw => ih e he hw.2 w.1 parts
  | null => cases h
  | boolean b => exact isStorable_eq_of_not_isHeaded (.boolean b) h rfl key parts
  | integer n => exact isStorable_eq_of_not_isHeaded (.integer n) h rfl key parts
  | float hx => exact isStorable_eq_of_not_isHeaded (.float hx) h rfl key parts
  | string s => exact isStorable_eq_of_not_isHeaded (.string s) h rfl key parts

end Json

/-! ### The document of a configuration -/

theorem stringArray_sound (texts : List String) : (stringArray texts).Sound :=
  .array (List.forall_mem_map.2 fun text _ => .string text)

theorem entryFits_stringArray (parts : ℕ) (key : String) (texts : List String) :
    entryFits parts (key, stringArray texts) = true := by
  have hplain : (stringArray texts).isPlain = true := by
    cases texts with
    | nil => rfl
    | cons text texts => rfl
  rw [entryFits, if_pos hplain]
  exact List.all_eq_true.2 (List.forall_mem_map.2 fun text _ => rfl)

theorem entryFits_table (parts : ℕ) (key : String) (entries : Toml.Entries) :
    entryFits (parts + 1) (key, .table entries) = entries.all (entryFits parts) := by
  rw [entryFits, if_neg (by simp [Toml.Value.isPlain]), all_valueSections_table]

namespace DashboardSection

theorem toToml_sound (s : DashboardSection) : s.toToml.Sound :=
  .table (by simp) (by simp [Toml.Value.Sound.string])

theorem entryFits_toToml (parts : ℕ) (key : String) (s : DashboardSection) :
    entryFits (parts + 1) (key, s.toToml) = true := by
  rw [toToml, entryFits_table]
  rfl

end DashboardSection

namespace FlagsSection

theorem toToml_sound (s : FlagsSection) : s.toToml.Sound := by
  have hvalues : (Toml.Value.table (s.values.entries.map fun e => (e.1, .boolean e.2))).Sound :=
    .table (ConfigTree.keysIncrease_map s.values.sorted _).nodup
      (List.forall_mem_map.2 fun e _ => .boolean e.2)
  exact .table (by simp) (by simp [stringArray_sound, hvalues])

theorem entryFits_toToml (parts : ℕ) (key : String) (s : FlagsSection) :
    entryFits (parts + 2) (key, s.toToml) = true := by
  have hvalues : (s.values.entries.map fun e => (e.1, Toml.Value.boolean e.2)).all
      (entryFits parts) = true := List.all_eq_true.2 (List.forall_mem_map.2 fun e _ => rfl)
  rw [toToml, entryFits_table, List.all_cons, List.all_cons, List.all_nil, entryFits_stringArray,
    entryFits_table, hvalues]
  rfl

end FlagsSection

namespace ActivationSection

theorem toToml_sound (s : ActivationSection) : s.toToml.Sound := by
  obtain ⟨_ | id, known⟩ := s
  · exact .table (by simp) (by simp [stringArray_sound])
  · exact .table (by simp) (by simp [stringArray_sound, Toml.Value.Sound.string])

theorem entryFits_toToml (parts : ℕ) (key : String) (s : ActivationSection) :
    entryFits (parts + 1) (key, s.toToml) = true := by
  rw [toToml, entryFits_table, List.all_append, List.all_cons, List.all_nil,
    entryFits_stringArray]
  cases s.lastSelection <;> rfl

end ActivationSection

namespace Config

variable {c : Config}

theorem document_sound {settings : Toml.Entries} (h : (Toml.Value.table settings).Sound) :
    (Toml.Value.table (c.document settings)).Sound := by
  have hplugins : (Toml.Value.table [("manifests", stringArray c.manifests)]).Sound :=
    .table (by simp) (by simp [stringArray_sound])
  exact .table (by simp [document]) (by
    simp [document, c.dashboard.toToml_sound, c.flags.toToml_sound, h,
      c.activation.toToml_sound, hplugins])

theorem documentFits_document (settings : Toml.Entries) :
    documentFits (c.document settings) = settings.all (entryFits (headerLimit - 1)) := by
  rw [documentFits_eq, document, headerLimit]
  simp only [List.all_cons, List.all_nil, c.dashboard.entryFits_toToml, c.flags.entryFits_toToml,
    c.activation.entryFits_toToml, entryFits_table, entryFits_stringArray, Bool.true_and,
    Bool.and_true]

section Settings

variable (hc : ∀ e ∈ c.settings.entries, e.2.Canonical)

include hc

/-- Settings of which some value has no form in documents cannot be kept. -/
theorem isStorable_eq_false {e : RenderError} (h : entriesToToml c.settings.entries = .error e) :
    c.isStorable = false := by
  obtain ⟨j, hj, e, he⟩ := exists_error_of_entriesToToml h
  exact all_eq_false_of_mem hj (Json.isStorable_eq_false (hc j hj) he _)

theorem documentFits_eq_isStorable {settings : Toml.Entries}
    (h : entriesToToml c.settings.entries = .ok settings) :
    documentFits (c.document settings) = c.isStorable := by
  rw [documentFits_document, isStorable]
  exact (all_eq_of_forall₂ (forall₂_of_entriesToToml h) fun e he w hw =>
    Json.isStorable_eq (hc e he) hw.2 w.1 _).symm

theorem settings_back {settings : Toml.Entries}
    (h : entriesToToml c.settings.entries = .ok settings) :
    (Toml.Value.table settings).Sound ∧
      ConfigTree.entriesToJson (ConfigTree.entriesOfToml settings) = c.settings.entries := by
  have htable : (Json.object c.settings.entries).toToml = .ok (.table settings) := by
    rw [Json.toToml, h]
  obtain ⟨hsound, hback⟩ := (Json.Canonical.object c.settings.sorted hc).back htable
  exact ⟨hsound, Json.object.inj hback⟩

end Settings

end Config

end Dashboard
