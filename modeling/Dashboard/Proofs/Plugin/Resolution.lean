import Dashboard.Container.Basic
import Dashboard.Proofs.Plugin.Registry

/-!
# What the resolver's answer rests on

The resolver answers with an eligible plugin, and with the selection whenever that is eligible. Its
answer is a function of what the container observes of a state. Observations are compared by value,
so that two of them with equal settings give one answer provided that the tests of custom predicates
are pure: equal settings, equal answers. Every other predicate is pure by itself.
-/

namespace Dashboard

/-! ### Pure predicates -/

namespace Json

theorem eq_boolean_of_same {a b : Json} {x : Bool} (h : a.same b = true) :
    a = .boolean x ↔ b = .boolean x := by
  cases a <;> cases b <;> simp_all [same]

end Json

namespace Settings

open Data in
theorem findEntry_eq_boolean_of_sameEntries {as bs : List (String × Json)} (key : String) (x : Bool)
    (h : Json.sameEntries as bs = true) :
    findEntry key as = some (.boolean x) ↔ findEntry key bs = some (.boolean x) := by
  induction as generalizing bs with
  | nil =>
    cases bs with
    | nil => rfl
    | cons b bs => simp [Json.sameEntries] at h
  | cons a as ih =>
    cases bs with
    | nil => simp [Json.sameEntries] at h
    | cons b bs =>
      simp only [Json.sameEntries, Bool.and_eq_true, beq_iff_eq] at h
      obtain ⟨⟨hkey, hvalue⟩, hrest⟩ := h
      simp only [findEntry, hkey]
      split
      · simp only [Option.some.injEq]
        exact Json.eq_boolean_of_same hvalue
      · exact ih hrest

theorem isOn_eq_true (s : Settings) (key : String) :
    s.isOn key = true ↔ s.get? key = some (.boolean true) := by
  unfold isOn
  split
  · rename_i b hb
    simp [hb]
  · rename_i hb
    simp only [Bool.false_eq_true, false_iff]
    exact hb true

theorem isOn_eq_of_same {s t : Settings} (h : s.same t = true) (key : String) :
    s.isOn key = t.isOn key := by
  rw [Bool.eq_iff_iff, isOn_eq_true, isOn_eq_true]
  exact findEntry_eq_boolean_of_sameEntries key true h

end Settings

namespace Predicate

/-- The tests inside the predicate give the same answer for settings with the same values. -/
def IsPure : Predicate → Prop
  | and p q => p.IsPure ∧ q.IsPure
  | or p q => p.IsPure ∧ q.IsPure
  | not p => p.IsPure
  | custom _ test => ∀ flags s t, Settings.same s t = true → test flags s = test flags t
  | _ => True

theorem isPure_minFlags (label : String) (count : Nat) : (minFlags label count).IsPure :=
  fun _ _ _ _ => rfl

theorem eval_eq_of_same {p : Predicate} (hp : p.IsPure) {s t : Settings} (h : s.same t = true)
    (flags : FeatureFlags) : p.eval flags s = p.eval flags t := by
  induction p with
  | setting key => exact Settings.isOn_eq_of_same h key
  | custom label test => exact hp flags s t h
  | and p q ihp ihq => simp only [eval, ihp hp.1, ihq hp.2]
  | or p q ihp ihq => simp only [eval, ihp hp.1, ihq hp.2]
  | not p ih => simp only [eval, ih hp]
  | _ => rfl

end Predicate

/-- A state without flags and settings. -/
def Snapshot.ofActivation (a : Activation) : Snapshot := ⟨a, .empty, .empty⟩

namespace Registry

/-- Every registered predicate is pure. -/
def IsPure (r : Registry) : Prop := ∀ d ∈ r.descriptors, d.predicate.IsPure

theorem lookup_map_self (describe : PluginId → Descriptor) (ids : List PluginId) (id : PluginId) :
    (ids.map fun id => (id, describe id)).lookup id =
      if id ∈ ids then some (describe id) else none := by
  induction ids with
  | nil => rfl
  | cons other ids ih =>
    rw [List.map_cons, List.lookup_cons, ih]
    by_cases h : id = other
    · simp [h]
    · simp [h, beq_eq_false_iff_ne.2 h]

/-- Plugins that are mounted in one way and enabled by one predicate. -/
def uniform (mount : MountPoint) (predicate : Predicate) (ids : List PluginId)
    (hids : ids.Nodup) : Registry where
  ids := ids
  entries := ids.map fun id => (id, { id, displayName := id.text, mount, predicate })
  nodup := hids
  mem_ids := by
    intro id
    rw [lookup_map_self fun id => { id, displayName := id.text, mount, predicate }]
    split <;> simp [*]
  keyed := by
    intro id d hd
    rw [lookup_map_self fun id => { id, displayName := id.text, mount, predicate }] at hd
    split at hd
    · exact Option.some.inj hd ▸ rfl
    · cases hd

/-- Plugins that are mounted in one way and always enabled. -/
def plain (mount : MountPoint) (ids : List PluginId) (hids : ids.Nodup) : Registry :=
  uniform mount .always ids hids

theorem isPure_uniform (mount : MountPoint) {predicate : Predicate} (hpredicate : predicate.IsPure)
    {ids : List PluginId} (hids : ids.Nodup) : (uniform mount predicate ids hids).IsPure := by
  intro d hd
  have hlookup : (ids.map fun id => (id, { id, displayName := id.text, mount, predicate })).lookup
      d.id = some d := mem_descriptors.1 hd
  rw [lookup_map_self fun id => { id, displayName := id.text, mount, predicate }] at hlookup
  split at hlookup
  · exact Option.some.inj hlookup ▸ hpredicate
  · cases hlookup

theorem isPure_plain (mount : MountPoint) {ids : List PluginId} (hids : ids.Nodup) :
    (plain mount ids hids).IsPure :=
  isPure_uniform mount (show Predicate.always.IsPure from trivial) hids

/-! ### Eligible plugins -/

/-- The plugins that may be shown in a state. -/
def eligibleIn (r : Registry) (s : Snapshot) : List PluginId :=
  r.eligible s.activation.known s.flags s.settings

theorem mem_eligible {r : Registry} {known : List PluginId} {flags : FeatureFlags}
    {settings : Settings} {id : PluginId} :
    id ∈ r.eligible known flags settings ↔
      ∃ d ∈ r.descriptors, d.id = id ∧ id ∈ known ∧ d.isEnabled flags settings = true := by
  simp only [eligible, List.mem_map, List.mem_filter, Bool.and_eq_true, List.contains_iff_mem]
  constructor
  · rintro ⟨d, ⟨hd, hknown, henabled⟩, rfl⟩
    exact ⟨d, hd, rfl, hknown, henabled⟩
  · rintro ⟨d, hd, rfl, hknown, henabled⟩
    exact ⟨d, ⟨hd, hknown, henabled⟩, rfl⟩

theorem mem_eligible_of_resolve {r : Registry} {known : List PluginId} {flags : FeatureFlags}
    {settings : Settings} {selection : Option PluginId} {id : PluginId}
    (h : r.resolve known flags settings selection = some id) :
    id ∈ r.eligible known flags settings := by
  unfold resolve at h
  dsimp only at h
  split at h
  · split at h
    · rename_i hmem
      exact Option.some.inj h ▸ List.contains_iff_mem.1 hmem
    · exact List.mem_of_head? h
  · exact List.mem_of_head? h

theorem resolve_of_mem_eligible {r : Registry} {known : List PluginId} {flags : FeatureFlags}
    {settings : Settings} {id : PluginId} (h : id ∈ r.eligible known flags settings) :
    r.resolve known flags settings (some id) = some id := by
  unfold resolve
  exact if_pos (List.contains_iff_mem.2 h)

/-- Without an eligible selection the first eligible plugin is the answer. -/
theorem resolve_of_not_mem_eligible {r : Registry} {known : List PluginId} {flags : FeatureFlags}
    {settings : Settings} {selection : Option PluginId}
    (h : ∀ id, selection = some id → id ∉ r.eligible known flags settings) :
    r.resolve known flags settings selection = (r.eligible known flags settings).head? := by
  cases selection with
  | none => rfl
  | some id => exact if_neg (mt List.contains_iff_mem.1 (h id rfl))

theorem exists_get?_of_mem {r : Registry} {d : Descriptor} (hd : d ∈ r.descriptors) :
    ∃ e, r.get? d.id = some e ∧ e.id = d.id :=
  ⟨d, mem_descriptors.1 hd, rfl⟩

/-- Whatever the resolver answers is registered. -/
theorem exists_get?_of_target {r : Registry} {s : Snapshot} {id : PluginId}
    (h : r.target s = some id) : ∃ d, r.get? id = some d ∧ d.id = id := by
  obtain ⟨d, hd, rfl, -, -⟩ := mem_eligible.1 (mem_eligible_of_resolve h)
  exact exists_get?_of_mem hd

/-! ### The answer to an observation -/

def answer (r : Registry) (o : Observed) : Option PluginId :=
  r.resolve o.known o.flags o.settings o.selection

theorem eligible_eq_of_same {r : Registry} (hr : r.IsPure) {s t : Settings}
    (h : s.same t = true) (known : List PluginId) (flags : FeatureFlags) :
    r.eligible known flags s = r.eligible known flags t := by
  unfold eligible
  refine congrArg _ (List.filter_congr fun d hd => ?_)
  simp only [Descriptor.isEnabled, Predicate.eval_eq_of_same (hr d hd) h flags]

/-- Observations with the same values have the same answer. -/
theorem answer_eq_of_same {r : Registry} (hr : r.IsPure) {a b : Observed} (h : a.same b = true) :
    r.answer a = r.answer b := by
  obtain ⟨known, selection, flags, settings⟩ := a
  obtain ⟨known', selection', flags', settings'⟩ := b
  simp only [Observed.same, Bool.and_eq_true, beq_iff_eq] at h
  obtain ⟨⟨⟨rfl, rfl⟩, rfl⟩, hsettings⟩ := h
  simp only [answer, resolve, eligible_eq_of_same hr hsettings]

theorem target_of_selection {r : Registry} {s : Snapshot} {id : PluginId}
    (hselection : s.activation.selection = some id)
    (hid : id ∈ r.eligibleIn s) : r.target s = some id := by
  unfold target
  rw [hselection]
  exact resolve_of_mem_eligible hid

/-- The answer to a state stays when it is confirmed and so becomes the selection. -/
theorem target_activated {r : Registry} {s : Snapshot} {id : PluginId} (h : r.target s = some id) :
    r.target (s.apply (.activated id)) = some id :=
  target_of_selection rfl (mem_eligible_of_resolve h)

end Registry

end Dashboard
