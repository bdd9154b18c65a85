import Dashboard.Proofs.Plugin.Resolution
import Mathlib.Data.List.Perm.Subperm

/-!
# What the resolver's answer depends on

The eligible plugins are a filter of the registration order, and the answer is read off them. So it
cannot see how the known plugins are listed, nor registered plugins that are not eligible. An
eligible selection hides the order of registration as well, and as soon as some plugin is eligible
later registrations count only if one of them brings the selection.
-/

namespace Dashboard

namespace Registry

variable {r r' : Registry} {known known' : List PluginId} {flags : FeatureFlags}
  {settings : Settings} {selection : Option PluginId} {id : PluginId} {d : Descriptor}

/-! ### The eligible plugins -/

/-- Whether the identifier is registered and its plugin available under the flags and settings. -/
def enables (r : Registry) (flags : FeatureFlags) (settings : Settings) (id : PluginId) : Bool :=
  (r.get? id).any fun d => d.isEnabled flags settings

theorem enables_id (h : d ∈ r.descriptors) :
    r.enables flags settings d.id = d.isEnabled flags settings := by
  rw [enables, mem_descriptors.1 h, Option.any_some]

theorem eligible_eq_filter (r : Registry) (known : List PluginId) (flags : FeatureFlags)
    (settings : Settings) :
    r.eligible known flags settings =
      r.ids.filter fun id => known.contains id && r.enables flags settings id := by
  rw [eligible, ← map_id_descriptors, List.filter_map]
  refine congrArg (List.map Descriptor.id) (List.filter_congr fun d hd => ?_)
  show _ = (known.contains d.id && r.enables flags settings d.id)
  rw [enables_id hd]

theorem nodup_eligible (r : Registry) (known : List PluginId) (flags : FeatureFlags)
    (settings : Settings) : (r.eligible known flags settings).Nodup := by
  rw [eligible_eq_filter]
  exact r.nodup.filter _

theorem resolve_eq (r : Registry) (known : List PluginId) (flags : FeatureFlags)
    (settings : Settings) (selection : Option PluginId) :
    r.resolve known flags settings selection =
      (selection.filter (r.eligible known flags settings).contains).or
        (r.eligible known flags settings).head? := by
  cases selection with
  | none => rfl
  | some id =>
    by_cases h : id ∈ r.eligible known flags settings
    · rw [resolve_of_mem_eligible h, Option.filter_some_pos (List.contains_iff_mem.2 h),
        Option.some_or]
    · rw [resolve_of_not_mem_eligible fun other hother => Option.some.inj hother ▸ h,
        Option.filter_some_neg (by simpa using h), Option.none_or]

/-- The answer is a function of the eligible plugins and the selection. -/
theorem resolve_congr
    (h : r'.eligible known' flags settings = r.eligible known flags settings)
    (selection : Option PluginId) :
    r'.resolve known' flags settings selection = r.resolve known flags settings selection := by
  rw [resolve_eq, resolve_eq, h]

/-! ### Listings -/

/-- Only which registered plugins are known matters, not how they are listed. -/
theorem eligible_congr_known (h : ∀ id ∈ r.ids, id ∈ known' ↔ id ∈ known) (flags : FeatureFlags)
    (settings : Settings) : r.eligible known' flags settings = r.eligible known flags settings := by
  rw [eligible_eq_filter, eligible_eq_filter]
  refine List.filter_congr fun id hid => ?_
  have hknown : known'.contains id = known.contains id := by
    rw [Bool.eq_iff_iff, List.contains_iff_mem, List.contains_iff_mem]
    exact h id hid
  rw [hknown]

/-! ### Registered plugins that are not eligible -/

/-- The second registry has the plugins of the first one in the same order, and among them perhaps
others, none of which is eligible. -/
structure Pads (r r' : Registry) (known : List PluginId) (flags : FeatureFlags)
    (settings : Settings) : Prop where
  sublist : r.descriptors.Sublist r'.descriptors
  ineligible : ∀ d ∈ r'.descriptors, d ∉ r.descriptors → d.id ∉ r'.eligible known flags settings

theorem Pads.eligible_eq (h : r.Pads r' known flags settings) :
    r'.eligible known flags settings = r.eligible known flags settings := by
  have hsublist :
      (r.eligible known flags settings).Sublist (r'.eligible known flags settings) :=
    (h.sublist.filter _).map _
  have hsubset : r'.eligible known flags settings ⊆ r.eligible known flags settings := by
    intro id hid
    obtain ⟨d, hd, rfl, hknown, henabled⟩ := mem_eligible.1 hid
    have hold : d ∈ r.descriptors := by
      by_contra hnew
      exact h.ineligible d hd hnew hid
    exact mem_eligible.2 ⟨d, hold, rfl, hknown, henabled⟩
  have hlength : (r'.eligible known flags settings).length ≤
      (r.eligible known flags settings).length :=
    (List.subperm_of_subset (r'.nodup_eligible known flags settings) hsubset).length_le
  exact (hsublist.eq_of_length_le hlength).symm

/-! ### The order of registration -/

theorem mem_eligible_of_perm (h : r.descriptors.Perm r'.descriptors) :
    id ∈ r'.eligible known flags settings ↔ id ∈ r.eligible known flags settings := by
  simp only [mem_eligible, h.mem_iff]

/-! ### Later registrations -/

/-- Whatever is registered later stands behind what is registered now. -/
theorem descriptors_prefix_registerNew (r : Registry) (ds : List Descriptor) :
    r.descriptors <+: (r.registerNew ds).1.descriptors := by
  induction ds generalizing r with
  | nil => exact List.prefix_refl _
  | cons d ds ih =>
    rw [registerNew]
    by_cases h : d.id ∈ r.ids
    · rw [register_of_mem h]
      exact ih r
    · rw [register_of_not_mem h]
      have hadd : r.descriptors <+: (r.add d h).descriptors :=
        descriptors_add r d h ▸ List.prefix_append _ _
      exact hadd.trans (ih _)

theorem eligible_prefix_of_prefix (h : r.descriptors <+: r'.descriptors)
    (known : List PluginId) (flags : FeatureFlags) (settings : Settings) :
    r.eligible known flags settings <+: r'.eligible known flags settings :=
  (h.filter _).map _

theorem mem_eligible_of_prefix (h : r.descriptors <+: r'.descriptors) (hid : id ∈ r.ids)
    (hmem : id ∈ r'.eligible known flags settings) : id ∈ r.eligible known flags settings := by
  obtain ⟨d, hd, rfl, hknown, henabled⟩ := mem_eligible.1 hmem
  obtain ⟨old, hold⟩ := exists_get?_of_mem_ids hid
  have hold' : old ∈ r.descriptors := mem_descriptors.2 (by rwa [id_of_get? hold])
  -- Both stand under one identifier of the longer registry, so they are the same.
  have hsame : old = d := by
    have hfound := mem_descriptors.1 (h.subset hold')
    rw [id_of_get? hold, mem_descriptors.1 hd] at hfound
    exact (Option.some.inj hfound).symm
  exact mem_eligible.2 ⟨d, hsame ▸ hold', rfl, hknown, henabled⟩

/-- Plugins registered behind an eligible one do not change the answer, unless one of them is the
selection and eligible itself. -/
theorem resolve_of_prefix (h : r.descriptors <+: r'.descriptors)
    (hsome : r.eligible known flags settings ≠ [])
    (hold : ∀ id, selection = some id → id ∈ r'.eligible known flags settings → id ∈ r.ids) :
    r'.resolve known flags settings selection = r.resolve known flags settings selection := by
  have heligible := eligible_prefix_of_prefix h known flags settings
  have hhead : (r'.eligible known flags settings).head? =
      (r.eligible known flags settings).head? := by
    obtain ⟨later, hlater⟩ := heligible
    rw [← hlater, List.head?_append_of_ne_nil _ hsome]
  have hselection : selection.filter (r'.eligible known flags settings).contains =
      selection.filter (r.eligible known flags settings).contains := by
    cases selection with
    | none => rfl
    | some id =>
      have hiff : id ∈ r'.eligible known flags settings ↔ id ∈ r.eligible known flags settings :=
        ⟨fun hmem => mem_eligible_of_prefix h (hold id rfl hmem) hmem,
          fun hmem => heligible.subset hmem⟩
      simp only [Option.filter, List.contains_iff_mem, hiff]
  rw [resolve_eq, resolve_eq, hselection, hhead]

/-! ### The answer -/

/-- What the answer of the resolver depends on, and what it does not depend on. -/
structure RestsOnEligible (r : Registry) (known : List PluginId) (flags : FeatureFlags)
    (settings : Settings) (selection : Option PluginId) : Prop where
  /-- The eligible plugins are the registered ones that are known and enabled, in registration
  order. -/
  eligible_eq : r.eligible known flags settings =
    r.ids.filter fun id => known.contains id && r.enables flags settings id
  nodup : (r.eligible known flags settings).Nodup
  /-- The selection is the answer if it is eligible, and otherwise the first eligible plugin. -/
  resolve_eq : r.resolve known flags settings selection =
    (selection.filter (r.eligible known flags settings).contains).or
      (r.eligible known flags settings).head?
  /-- The listing may be reordered, repeat itself, and name plugins that are not registered. -/
  listing : ∀ known' : List PluginId, (∀ id ∈ r.ids, id ∈ known' ↔ id ∈ known) →
    r.resolve known' flags settings selection = r.resolve known flags settings selection
  /-- Plugins that are not eligible may be registered or not. -/
  ineligible : ∀ r' : Registry, r.Pads r' known flags settings ∨ r'.Pads r known flags settings →
    r'.resolve known flags settings selection = r.resolve known flags settings selection
  /-- With an eligible selection the order of registration does not matter. -/
  reordered : ∀ (r' : Registry) (id : PluginId), r.descriptors.Perm r'.descriptors →
    selection = some id → id ∈ r.eligible known flags settings →
    r'.resolve known flags settings selection = r.resolve known flags settings selection
  /-- Once a plugin is eligible, further ones matter only if one of them brings the selection. -/
  further : ∀ ds : List Descriptor, r.eligible known flags settings ≠ [] →
    (∀ id, selection = some id →
      id ∈ (r.registerNew ds).1.eligible known flags settings → id ∈ r.ids) →
    (r.registerNew ds).1.resolve known flags settings selection =
      r.resolve known flags settings selection

theorem restsOnEligible (r : Registry) (known : List PluginId) (flags : FeatureFlags)
    (settings : Settings) (selection : Option PluginId) :
    r.RestsOnEligible known flags settings selection where
  eligible_eq := r.eligible_eq_filter known flags settings
  nodup := r.nodup_eligible known flags settings
  resolve_eq := r.resolve_eq known flags settings selection
  listing known' h := resolve_congr (eligible_congr_known h flags settings) selection
  ineligible r' h := by
    rcases h with hadded | hremoved
    · exact resolve_congr hadded.eligible_eq selection
    · exact resolve_congr hremoved.eligible_eq.symm selection
  reordered r' id hperm hselection hid := by
    have hid' : id ∈ r'.eligible known flags settings := (mem_eligible_of_perm hperm).2 hid
    rw [hselection, resolve_of_mem_eligible hid', resolve_of_mem_eligible hid]
  further ds hsome hold :=
    resolve_of_prefix (descriptors_prefix_registerNew r ds) hsome hold

end Registry

end Dashboard
