import Dashboard.Plugin.Registry
import Mathlib.Data.List.Basic

/-!
# The registry over its history

Order and look-up are kept in two containers, and what walks the descriptors would not show that
they had drifted apart. They never do: each part of a registry is a function of the descriptors that
someone tried to register since it was last emptied. The order is that of the first attempts, and an
identifier leads to the descriptor of its first attempt. This holds of copies as well, whatever is
done to the registry that they were taken from.
-/

namespace Dashboard

namespace Registry

/-! ### Both containers say the same -/

/-- Every identifier of the order has its descriptor, so that none is passed over. -/
theorem map_id_descriptors (r : Registry) : r.descriptors.map Descriptor.id = r.ids := by
  have hwalk : ∀ ids : List PluginId, (∀ id ∈ ids, id ∈ r.ids) →
      (ids.filterMap r.get?).map Descriptor.id = ids := by
    intro ids hids
    induction ids with
    | nil => rfl
    | cons id ids ih =>
      obtain ⟨d, hd⟩ := exists_get?_of_mem_ids (hids id List.mem_cons_self)
      rw [List.filterMap_cons_some hd, List.map_cons, id_of_get? hd,
        ih fun id hid => hids id (List.mem_cons_of_mem _ hid)]
  exact hwalk r.ids fun _ h => h

theorem unique (r : Registry) : (r.descriptors.map Descriptor.id).Nodup :=
  r.map_id_descriptors ▸ r.nodup

/-- A descriptor is registered exactly when its identifier leads to it. -/
theorem mem_descriptors {r : Registry} {d : Descriptor} :
    d ∈ r.descriptors ↔ r.get? d.id = some d := by
  constructor
  · intro h
    obtain ⟨id, -, hid⟩ := List.mem_filterMap.1 h
    rwa [id_of_get? hid]
  · intro h
    have hmem : d.id ∈ r.ids := (r.mem_ids d.id).2 (Option.isSome_iff_exists.2 ⟨d, h⟩)
    exact List.mem_filterMap.2 ⟨d.id, hmem, h⟩

theorem contains_eq (r : Registry) (id : PluginId) : r.contains id = r.ids.contains id := by
  rw [Bool.eq_iff_iff, contains_iff, List.contains_iff_mem]

/-! ### What a registration does -/

theorem get?_add (r : Registry) (d : Descriptor) (h : d.id ∉ r.ids) (id : PluginId) :
    (r.add d h).get? id = if id = d.id then some d else r.get? id := by
  by_cases hid : id = d.id
  · simp [get?, add, hid]
  · have hne : (id == d.id) = false := by simpa using hid
    simp [get?, add, List.lookup_cons, hne, hid]

theorem descriptors_add (r : Registry) (d : Descriptor) (h : d.id ∉ r.ids) :
    (r.add d h).descriptors = r.descriptors ++ [d] := by
  have hold : r.ids.filterMap (r.add d h).get? = r.ids.filterMap r.get? :=
    List.filterMap_congr fun id hid => by
      rw [get?_add, if_neg fun heq : id = d.id => h (heq ▸ hid)]
  have hnew : (r.add d h).get? d.id = some d := by rw [get?_add, if_pos rfl]
  calc (r.add d h).descriptors
      = (r.ids ++ [d.id]).filterMap (r.add d h).get? := rfl
    _ = r.ids.filterMap (r.add d h).get? ++ [d] := by simp [List.filterMap_append, hnew]
    _ = r.descriptors ++ [d] := by rw [hold, descriptors]

theorem register_of_mem {r : Registry} {d : Descriptor} (h : d.id ∈ r.ids) :
    r.register d = .error (.duplicateId d.id) :=
  dif_pos (contains_iff.2 h)

theorem register_of_not_mem {r : Registry} {d : Descriptor} (h : d.id ∉ r.ids) :
    r.register d = .ok (r.add d h) :=
  dif_neg (mt contains_iff.1 h)

/-- The registry after an attempt to register, and what the attempt returns. -/
def tryRegister (r : Registry) (d : Descriptor) : Registry × Except PluginError Unit :=
  match r.register d with
  | .ok r' => (r', .ok ())
  | .error e => (r, .error e)

theorem tryRegister_of_mem {r : Registry} {d : Descriptor} (h : d.id ∈ r.ids) :
    r.tryRegister d = (r, .error (.duplicateId d.id)) := by
  rw [tryRegister, register_of_mem h]

theorem tryRegister_of_new {r : Registry} {d : Descriptor} (h : d.id ∉ r.ids) :
    r.tryRegister d = (r.add d h, .ok ()) := by
  rw [tryRegister, register_of_not_mem h]

theorem tryRegister_of_not_mem {r : Registry} {d : Descriptor} (h : d.id ∉ r.ids) :
    (r.tryRegister d).2 = .ok () ∧ (r.tryRegister d).1.descriptors = r.descriptors ++ [d] := by
  rw [tryRegister_of_new h]
  exact ⟨rfl, descriptors_add r d h⟩

/-- An attempt fails exactly when the identifier is taken. -/
theorem tryRegister_fails_iff {r : Registry} {d : Descriptor} {e : PluginError} :
    (r.tryRegister d).2 = .error e ↔ d.id ∈ r.ids ∧ e = .duplicateId d.id := by
  by_cases h : d.id ∈ r.ids
  · simp [tryRegister_of_mem h, h, eq_comm]
  · simp [tryRegister_of_new h, h]

/-! ### What a registry owes its history -/

/-- What a registry is, given the descriptors that someone tried to register since it was last
emptied. -/
structure Recounts (r : Registry) (history : List Descriptor) : Prop where
  /-- The identifiers stand in the order of their first attempts, each once. -/
  ids : r.ids = (history.map Descriptor.id).eraseDups
  /-- An identifier leads to the descriptor of its first attempt. -/
  get? : ∀ id, r.get? id = history.find? fun d => d.id == id

theorem recounts_empty : Recounts .empty [] := ⟨rfl, fun _ => rfl⟩

theorem Recounts.mem_ids {r : Registry} {history : List Descriptor} (h : r.Recounts history)
    {id : PluginId} : id ∈ r.ids ↔ ∃ d ∈ history, d.id = id := by
  rw [h.ids, List.mem_eraseDups, List.mem_map]

theorem eraseDups_concat (ids : List PluginId) (id : PluginId) :
    (ids ++ [id]).eraseDups = ids.eraseDups ++ if id ∈ ids then [] else [id] := by
  rw [List.eraseDups_append, List.removeAll]
  by_cases h : id ∈ ids
  · simp [h]
  · simp [h, List.eraseDups_cons]

/-- An attempt becomes part of the history, whether or not it succeeds. -/
theorem Recounts.tryRegister {r : Registry} {history : List Descriptor} (h : r.Recounts history)
    (d : Descriptor) : (r.tryRegister d).1.Recounts (history ++ [d]) := by
  have hids : ((history ++ [d]).map Descriptor.id).eraseDups =
      r.ids ++ if d.id ∈ history.map Descriptor.id then [] else [d.id] := by
    rw [List.map_append, List.map_singleton, eraseDups_concat, h.ids]
  by_cases hmem : d.id ∈ r.ids
  · rw [tryRegister_of_mem hmem]
    have hold : d.id ∈ history.map Descriptor.id := List.mem_map.2 (h.mem_ids.1 hmem)
    constructor
    · rw [hids, if_pos hold, List.append_nil]
    · intro id
      rw [h.get? id, List.find?_append]
      by_cases hid : d.id = id
      · -- The identifier is taken: its first attempt lies in the older part of the history.
        obtain ⟨first, hfirst⟩ := exists_get?_of_mem_ids (hid ▸ hmem)
        rw [← h.get? id, hfirst, Option.some_or]
      · simp [hid]
  · rw [tryRegister_of_new hmem]
    have hnew : d.id ∉ history.map Descriptor.id := fun hold =>
      hmem (h.mem_ids.2 (List.mem_map.1 hold))
    constructor
    · rw [hids, if_neg hnew, add]
    · intro id
      rw [get?_add, List.find?_append, ← h.get? id]
      by_cases hid : id = d.id
      · have hnone : r.get? d.id = none :=
          Option.not_isSome_iff_eq_none.1 (mt (r.mem_ids d.id).2 hmem)
        simp [hid, hnone]
      · simp [hid, Ne.symm hid]

/-! ### Registries and copies of them -/

/-- A registry that can be changed, and the descriptors that someone tried to register there since
it was last emptied. A copy shares the history of its original up to the copying. -/
structure Kept where
  registry : Registry
  history : List Descriptor

namespace Kept

def new : Kept := ⟨.empty, []⟩

def register (k : Kept) (d : Descriptor) : Kept :=
  ⟨(k.registry.tryRegister d).1, k.history ++ [d]⟩

def reset (k : Kept) : Kept := ⟨k.registry.reset, []⟩

end Kept

/-- What is done to registries that stand in numbered places. -/
inductive Operation where
  | register (place : Nat) (d : Descriptor)
  | reset (place : Nat)
  /-- A copy of the registry goes to a new place, behind the others. -/
  | clone (place : Nat)
  /-- The registries of two places are exchanged. -/
  | swap (a b : Nat)

namespace Operation

def apply (places : List Kept) : Operation → List Kept
  | .register place d => places.modify place (·.register d)
  | .reset place => places.modify place Kept.reset
  | .clone place => places ++ places[place]?.toList
  | .swap a b =>
    match places[a]?, places[b]? with
    | some x, some y => (places.set a y).set b x
    | _, _ => places

/-- The places after some operations; at first there is a new registry in the only place. -/
def run (ops : List Operation) : List Kept := ops.foldl apply [.new]

/-- Whether an operation is done to the registry of a place. -/
def touches (place : Nat) : Operation → Bool
  | .register other _ => other == place
  | .reset other => other == place
  | .clone _ => false
  | .swap a b => a == place || b == place

theorem apply_of_not_touches {places : List Kept} {place : Nat} (hplace : place < places.length)
    {op : Operation} (h : op.touches place = false) :
    (op.apply places)[place]? = places[place]? := by
  cases op with
  | register other d =>
    have hne : other ≠ place := by simpa [touches] using h
    simp [apply, hne]
  | reset other =>
    have hne : other ≠ place := by simpa [touches] using h
    simp [apply, hne]
  | clone other => exact List.getElem?_append_left hplace
  | swap a b =>
    obtain ⟨ha, hb⟩ : a ≠ place ∧ b ≠ place := by simpa [touches] using h
    simp only [apply]
    split
    · rw [List.getElem?_set_ne hb, List.getElem?_set_ne ha]
    · rfl

theorem length_le_apply (places : List Kept) (op : Operation) :
    places.length ≤ (op.apply places).length := by
  cases op with
  | swap a b =>
    simp only [apply]
    split <;> simp
  | _ => simp [apply]

theorem foldl_apply_of_not_touches {places : List Kept} {place : Nat}
    (hplace : place < places.length) {ops : List Operation}
    (h : ∀ op ∈ ops, op.touches place = false) :
    (ops.foldl apply places)[place]? = places[place]? := by
  induction ops generalizing places with
  | nil => rfl
  | cons op ops ih =>
    obtain ⟨hop, hops⟩ := List.forall_mem_cons.1 h
    rw [List.foldl_cons, ih (Nat.lt_of_lt_of_le hplace (length_le_apply places op)) hops,
      apply_of_not_touches hplace hop]

/-- Where a registry can come from in one operation. -/
theorem mem_apply {places : List Kept} {op : Operation} {k : Kept} (h : k ∈ op.apply places) :
    k ∈ places ∨ (∃ k' ∈ places, ∃ d, k = k'.register d) ∨ ∃ k' ∈ places, k = k'.reset := by
  cases op with
  | register place d =>
    obtain ⟨i, hi⟩ := List.mem_iff_getElem?.1 h
    simp only [apply, List.getElem?_modify, Option.map_eq_map, Option.map_eq_some_iff] at hi
    obtain ⟨k', hk', rfl⟩ := hi
    split
    · exact .inr (.inl ⟨k', List.mem_of_getElem? hk', d, rfl⟩)
    · exact .inl (List.mem_of_getElem? hk')
  | reset place =>
    obtain ⟨i, hi⟩ := List.mem_iff_getElem?.1 h
    simp only [apply, List.getElem?_modify, Option.map_eq_map, Option.map_eq_some_iff] at hi
    obtain ⟨k', hk', rfl⟩ := hi
    split
    · exact .inr (.inr ⟨k', List.mem_of_getElem? hk', rfl⟩)
    · exact .inl (List.mem_of_getElem? hk')
  | clone place =>
    rcases List.mem_append.1 h with h | h
    · exact .inl h
    · exact .inl (List.mem_of_getElem? (Option.mem_toList.1 h))
  | swap a b =>
    simp only [apply] at h
    split at h
    · rename_i x y hx hy
      rcases List.mem_or_eq_of_mem_set h with h | rfl
      · rcases List.mem_or_eq_of_mem_set h with h | rfl
        · exact .inl h
        · exact .inl (List.mem_of_getElem? hy)
      · exact .inl (List.mem_of_getElem? hx)
    · exact .inl h

theorem recounts_apply {places : List Kept} (h : ∀ k ∈ places, k.registry.Recounts k.history)
    (op : Operation) : ∀ k ∈ op.apply places, k.registry.Recounts k.history := by
  intro k hk
  rcases mem_apply hk with hk | ⟨k', hk', d, rfl⟩ | ⟨k', -, rfl⟩
  · exact h k hk
  · exact (h k' hk').tryRegister d
  · exact recounts_empty

theorem recounts_run (ops : List Operation) : ∀ k ∈ run ops, k.registry.Recounts k.history := by
  have hstart : ∀ k ∈ [Kept.new], k.registry.Recounts k.history := fun k hk =>
    List.mem_singleton.1 hk ▸ recounts_empty
  unfold run
  generalize [Kept.new] = places at hstart
  induction ops generalizing places with
  | nil => exact hstart
  | cons op ops ih => exact ih _ (recounts_apply hstart op)

end Operation

/-- What a registry shows to those who use it, given its history. -/
structure Faithful (r : Registry) (history : List Descriptor) : Prop extends
    r.Recounts history where
  nodup : r.ids.Nodup
  carried : ∀ id d, r.get? id = some d → d.id = id
  contains : ∀ id, r.contains id = r.ids.contains id
  size : r.size = r.ids.length
  isEmpty : r.isEmpty = r.ids.isEmpty
  /-- The descriptors are listed in the order of the identifiers, and none is left out. -/
  listed : r.descriptors.map Descriptor.id = r.ids
  found : ∀ d, d ∈ r.descriptors ↔ r.get? d.id = some d
  refuses : ∀ d e, (r.tryRegister d).2 = .error e ↔ d.id ∈ r.ids ∧ e = .duplicateId d.id
  /-- A registration that is refused leaves all as it was. -/
  kept : ∀ d, d.id ∈ r.ids → (r.tryRegister d).1 = r

theorem Recounts.faithful {r : Registry} {history : List Descriptor} (h : r.Recounts history) :
    r.Faithful history where
  ids := h.ids
  get? := h.get?
  nodup := r.nodup
  carried _ _ := id_of_get?
  contains := r.contains_eq
  size := rfl
  isEmpty := rfl
  listed := r.map_id_descriptors
  found _ := mem_descriptors
  refuses _ _ := tryRegister_fails_iff
  kept d hd := by rw [tryRegister_of_mem hd]

/-- Whatever is registered, emptied, copied and exchanged, every registry is the one of its history,
and a registry changes only by what is done to itself. -/
theorem faithful_run (ops : List Operation) :
    (∀ k ∈ Operation.run ops, k.registry.Faithful k.history) ∧
      ∀ place < (Operation.run ops).length, ∀ more : List Operation,
        (∀ op ∈ more, op.touches place = false) →
          (Operation.run (ops ++ more))[place]? = (Operation.run ops)[place]? := by
  constructor
  · intro k hk
    exact (Operation.recounts_run ops k hk).faithful
  · intro place hplace more hmore
    unfold Operation.run at hplace ⊢
    rw [List.foldl_append, Operation.foldl_apply_of_not_touches hplace hmore]

/-- A copy is taken between two attempts to register the same identifier, and the original is
emptied afterwards. -/
theorem faithful_run_copied :
    let first : Descriptor := { id := ⟨"a"⟩, displayName := "A" }
    let second : Descriptor := { id := ⟨"a"⟩, displayName := "A again" }
    let other : Descriptor := { id := ⟨"b"⟩, displayName := "B" }
    let ops : List Operation := [.register 0 first, .clone 0, .register 1 second]
    let more : List Operation := [.reset 0, .register 0 other]
    ((Operation.run ops).map fun k => k.registry.ids) = [[⟨"a"⟩], [⟨"a"⟩]] ∧
      (Operation.run (ops ++ more))[1]? = (Operation.run ops)[1]? := by
  intro first second other ops more
  exact ⟨by decide, (faithful_run ops).2 1 (by decide) more (by decide)⟩

end Registry

end Dashboard
