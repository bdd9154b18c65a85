import Dashboard.Proofs.Config.Tree
import Dashboard.Store.Memory
import Dashboard.Store.Recording
import Mathlib.Data.List.Induction

/-!
# The stores agree

The store in memory and the recording one are the plain reduction of a state with something kept
beside it: the one counts the changes for its subscribers, the other also keeps a log. What a run of
actions leaves of a state is known without running it: every part of the state holds what was
written to it last.

Settings are compared by value, and a number that is not a number would not equal itself. The
settings of an application are canonical JSON, in which there is none.
-/

namespace Dashboard

open Number

/-! ### Values that equal themselves -/

theorem Number.Binary64.same_self {x : Binary64} (h : x.isFinite = true) : x.same x = true := by
  have hnan : x.isNaN = false := by
    have hfield : (x.exponentField == 2047) = false := by simpa [isFinite] using h
    rw [isNaN, hfield, Bool.false_and]
  simp [same, hnan]

namespace Json

theorem sameItems_self {items : List Json} (h : ∀ j ∈ items, j.same j = true) :
    sameItems items items = true := by
  induction items with
  | nil => rfl
  | cons j items ih =>
    obtain ⟨hj, hrest⟩ := List.forall_mem_cons.1 h
    rw [sameItems, hj, ih hrest, Bool.true_and]

theorem sameEntries_self {entries : List (String × Json)} (h : ∀ e ∈ entries, e.2.same e.2 = true) :
    sameEntries entries entries = true := by
  induction entries with
  | nil => rfl
  | cons e entries ih =>
    obtain ⟨he, hrest⟩ := List.forall_mem_cons.1 h
    rw [sameEntries, he, ih hrest, beq_self_eq_true, Bool.true_and, Bool.true_and]

theorem Canonical.same_self {j : Json} (h : j.Canonical) : j.same j = true := by
  induction h with
  | null => rfl
  | boolean b => exact beq_self_eq_true b
  | integer n => exact beq_self_eq_true n
  | float hx => exact Binary64.same_self hx
  | string s => exact beq_self_eq_true s
  | array _ ih => exact sameItems_self ih
  | object _ _ ih => exact sameEntries_self ih

end Json

/-- Settings as an application has them: their objects are in key order and their numbers finite. -/
def Settings.Canonical (s : Settings) : Prop := ∀ e ∈ s.values.entries, e.2.Canonical

theorem Settings.Canonical.same_self {s : Settings} (h : s.Canonical) : s.same s = true :=
  Json.sameEntries_self fun e he => (h e he).same_self

/-- An action that brings no other settings than such as an application has. -/
def Action.Canonical : Action → Prop
  | .settingsChanged settings => settings.Canonical
  | _ => True

/-! ### What an action changes -/

namespace Snapshot

variable {s : Snapshot} {a : Action}

theorem canonical_apply (hs : s.settings.Canonical) (ha : a.Canonical) :
    (s.apply a).settings.Canonical := by
  cases a with
  | settingsChanged settings =>
    simp only [apply, reduce]
    split
    · exact hs
    · exact ha
  | activated id => exact hs
  | selected id | listed ids | flagsChanged flags =>
    simp only [apply, reduce]
    split <;> exact hs

theorem same_iff {t : Snapshot} : s.same t = true ↔
    s.activation = t.activation ∧ s.flags = t.flags ∧ s.settings.same t.settings = true := by
  simp only [same, Bool.and_eq_true, beq_iff_eq, and_assoc]

/-- A change is reported exactly when the state is not the same as before. -/
theorem changes_iff (hs : s.settings.Canonical) (ha : a.Canonical) :
    s.changes a = true ↔ s.same (s.apply a) = false := by
  rw [← Bool.not_eq_true, same_iff]
  obtain ⟨⟨known, active, selection⟩, flags, settings⟩ := s
  have hself : settings.same settings = true := hs.same_self
  cases a with
  | activated id =>
    simp only [changes, apply, reduce, Bool.or_eq_true, bne_iff_ne, Activation.mk.injEq, hself]
    tauto
  | selected | listed | flagsChanged | settingsChanged =>
    simp only [changes, apply, reduce]
    split_ifs with h <;> simp [h, hself]

/-- The state after some actions. -/
def applyAll (s : Snapshot) (as : List Action) : Snapshot := as.foldl apply s

theorem applyAll_concat (s : Snapshot) (as : List Action) (a : Action) :
    s.applyAll (as ++ [a]) = (s.applyAll as).apply a := by
  simp only [applyAll, List.foldl_append, List.foldl_cons, List.foldl_nil]

theorem canonical_applyAll (hs : s.settings.Canonical) {as : List Action}
    (has : ∀ a ∈ as, a.Canonical) : (s.applyAll as).settings.Canonical :=
  List.foldlRecOn as apply (motive := fun t => t.settings.Canonical) hs
    fun _ ht a ha => canonical_apply ht (has a ha)

/-- What each of some actions is reported to have changed. -/
def reports (s : Snapshot) : List Action → List Bool
  | [] => []
  | a :: as => s.changes a :: (s.apply a).reports as

theorem reports_concat (s : Snapshot) (as : List Action) (a : Action) :
    s.reports (as ++ [a]) = s.reports as ++ [(s.applyAll as).changes a] := by
  induction as generalizing s with
  | nil => rfl
  | cons b as ih =>
    rw [List.cons_append, reports, ih, reports, List.cons_append]
    rfl

end Snapshot

/-! ### The last writer -/

namespace Action

/-- The known plugins that an action writes. -/
def known? : Action → Option (List PluginId)
  | listed ids => some ids
  | _ => none

/-- The active plugin that an action writes. -/
def active? : Action → Option (Option PluginId)
  | activated id => some (some id)
  | _ => none

/-- The selection that an action writes: confirming a plugin also selects it. -/
def selection? : Action → Option (Option PluginId)
  | activated id | selected id => some (some id)
  | _ => none

def flags? : Action → Option FeatureFlags
  | flagsChanged flags => some flags
  | _ => none

def settings? : Action → Option Settings
  | settingsChanged settings => some settings
  | _ => none

/-- The last value that some actions write, or the one from before if they write none. -/
def lastWrite {α : Type} (written : Action → Option α) (as : List Action) (initial : α) : α :=
  (as.filterMap written).getLast?.getD initial

theorem lastWrite_concat {α : Type} (written : Action → Option α) (as : List Action) (a : Action)
    (initial : α) :
    lastWrite written (as ++ [a]) initial = (written a).getD (lastWrite written as initial) := by
  cases h : written a with
  | none => simp [lastWrite, h]
  | some v => simp [lastWrite, h]

end Action

namespace Snapshot

theorem known_apply (s : Snapshot) (a : Action) :
    (s.apply a).activation.known = a.known?.getD s.activation.known := by
  cases a with
  | listed ids => by_cases h : s.activation.known = ids <;> simp [apply, reduce, h, Action.known?]
  | _ => grind [apply, reduce, Action.known?]

theorem active_apply (s : Snapshot) (a : Action) :
    (s.apply a).activation.active = a.active?.getD s.activation.active := by
  cases a <;> grind [apply, reduce, Action.active?]

theorem selection_apply (s : Snapshot) (a : Action) :
    (s.apply a).activation.selection = a.selection?.getD s.activation.selection := by
  cases a <;> grind [apply, reduce, Action.selection?]

theorem flags_apply (s : Snapshot) (a : Action) : (s.apply a).flags = a.flags?.getD s.flags := by
  cases a <;> grind [apply, reduce, Action.flags?]

/-- Settings equal to those already there are not written, so only their values can be told. -/
theorem same_settings_apply {a : Action} (ha : a.Canonical) {s : Snapshot} {t : Settings}
    (h : s.settings.same t = true) : (s.apply a).settings.same (a.settings?.getD t) = true := by
  cases a with
  | settingsChanged settings =>
    have hself : settings.same settings = true := Settings.Canonical.same_self ha
    by_cases hsame : s.settings.same settings = true <;>
      simp [apply, reduce, hsame, hself, Action.settings?]
  | _ => grind [apply, reduce, Action.settings?]

variable {s : Snapshot} {as : List Action} {α : Type}

/-- A part that every action either writes or leaves alone holds what was written last. -/
theorem related_lastWrite {part : Snapshot → α} {written : Action → Option α} {R : α → α → Prop}
    (hstart : R (part s) (part s))
    (hstep : ∀ a ∈ as, ∀ {t : Snapshot} {v : α},
      R (part t) v → R (part (t.apply a)) ((written a).getD v)) :
    R (part (s.applyAll as)) (Action.lastWrite written as (part s)) := by
  induction as using List.reverseRecOn with
  | nil => exact hstart
  | append_singleton as a ih =>
    rw [applyAll_concat, Action.lastWrite_concat]
    apply hstep a (by simp)
    exact ih fun b hb => hstep b (List.mem_append_left _ hb)

theorem eq_lastWrite (part : Snapshot → α) {written : Action → Option α}
    (hstep : ∀ (t : Snapshot) (a : Action), part (t.apply a) = (written a).getD (part t)) :
    part (s.applyAll as) = Action.lastWrite written as (part s) := by
  refine related_lastWrite (R := Eq) rfl fun a _ t v h => ?_
  rw [hstep, h]

/-- Every part of `t` holds what `as` wrote to it last, the settings up to equality of values. -/
structure IsLeftBy (t s : Snapshot) (as : List Action) : Prop where
  known : t.activation.known = Action.lastWrite Action.known? as s.activation.known
  active : t.activation.active = Action.lastWrite Action.active? as s.activation.active
  selection : t.activation.selection = Action.lastWrite Action.selection? as s.activation.selection
  flags : t.flags = Action.lastWrite Action.flags? as s.flags
  settings : t.settings.same (Action.lastWrite Action.settings? as s.settings) = true

theorem isLeftBy_applyAll (hs : s.settings.Canonical) (has : ∀ a ∈ as, a.Canonical) :
    (s.applyAll as).IsLeftBy s as where
  known := eq_lastWrite (·.activation.known) known_apply
  active := eq_lastWrite (·.activation.active) active_apply
  selection := eq_lastWrite (·.activation.selection) selection_apply
  flags := eq_lastWrite (·.flags) flags_apply
  settings := related_lastWrite (R := fun a b => Settings.same a b = true) hs.same_self
    fun a ha _ _ h => same_settings_apply (has a ha) h

end Snapshot

/-! ### Three stores at once -/

/-- An action, and whether the container dispatches it: the recording store logs only those. -/
structure Posting where
  action : Action
  isDispatched : Bool

def RecordingStore.post (r : RecordingStore) (p : Posting) : RecordingStore :=
  if p.isDispatched then r.dispatch p.action else (r.apply p.action).1

theorem RecordingStore.post_eq (r : RecordingStore) (p : Posting) :
    r.post p =
      { snapshot := r.snapshot.apply p.action
        dispatched := r.dispatched ++ ([p].filter (·.isDispatched)).map (·.action)
        version := r.version + (r.snapshot.changes p.action).toNat } := by
  obtain ⟨a, isDispatched⟩ := p
  cases isDispatched with
  | true => simp [post, dispatch, apply_eq]
  | false => simp [post, apply_eq]

/-- Whether an action wakes a subscriber that has seen everything so far. -/
def MemoryStore.wakes (m : MemoryStore) (a : Action) : Bool :=
  (m.dispatch a).version != m.version

theorem MemoryStore.wakes_eq (m : MemoryStore) (a : Action) :
    m.wakes a = m.snapshot.changes a := by
  rw [wakes, dispatch_eq]
  cases m.snapshot.changes a <;> simp

/-- A state that is reduced by itself, and two stores. -/
structure Stores where
  plain : Snapshot
  memory : MemoryStore
  recording : RecordingStore

namespace Stores

def ofSnapshot (s : Snapshot) : Stores := ⟨s, .ofSnapshot s, .ofSnapshot s⟩

def post (t : Stores) (p : Posting) : Stores where
  plain := t.plain.apply p.action
  memory := t.memory.dispatch p.action
  recording := t.recording.post p

def postAll (t : Stores) (ps : List Posting) : Stores := ps.foldl post t

theorem postAll_concat (t : Stores) (ps : List Posting) (p : Posting) :
    t.postAll (ps ++ [p]) = (t.postAll ps).post p := by
  simp only [postAll, List.foldl_append, List.foldl_cons, List.foldl_nil]

/-- What the stores hold that were given `s` and then `ps`. -/
structure Agree (t : Stores) (s : Snapshot) (ps : List Posting) : Prop where
  plain : t.plain = s.applyAll (ps.map (·.action))
  memory : t.memory.snapshot = t.plain
  recording : t.recording.snapshot = t.plain
  version : t.recording.version = (s.reports (ps.map (·.action))).count true
  dispatched : t.recording.dispatched = (ps.filter (·.isDispatched)).map (·.action)

theorem Agree.post {t : Stores} {s : Snapshot} {ps : List Posting} (h : t.Agree s ps)
    (p : Posting) : (t.post p).Agree s (ps ++ [p]) where
  plain := by
    rw [List.map_append, List.map_singleton, Snapshot.applyAll_concat, ← h.plain]
    rfl
  memory := by
    change (t.memory.dispatch p.action).snapshot = t.plain.apply p.action
    rw [MemoryStore.snapshot_dispatch, h.memory]
  recording := by
    change (t.recording.post p).snapshot = t.plain.apply p.action
    rw [RecordingStore.post_eq, h.recording]
  version := by
    change (t.recording.post p).version = _
    rw [List.map_append, List.map_singleton, Snapshot.reports_concat, List.count_append,
      ← h.version, ← h.plain, RecordingStore.post_eq, h.recording]
    cases t.plain.changes p.action <;> rfl
  dispatched := by
    change (t.recording.post p).dispatched = _
    rw [RecordingStore.post_eq, h.dispatched, List.filter_append, List.map_append]

theorem agree_postAll (s : Snapshot) (ps : List Posting) :
    ((ofSnapshot s).postAll ps).Agree s ps := by
  induction ps using List.reverseRecOn with
  | nil => exact ⟨rfl, rfl, rfl, rfl, rfl⟩
  | append_singleton ps p ih =>
    rw [postAll_concat]
    exact ih.post p

/-- After any run the three stores hold one state, in which every part is what was written to it
last; and whatever comes next is reported, and wakes subscribers, exactly when it makes a
difference. -/
theorem stores_agree (s : Snapshot) (hs : s.settings.Canonical) (ps : List Posting)
    (hps : ∀ p ∈ ps, p.action.Canonical) :
    let t := (ofSnapshot s).postAll ps
    t.Agree s ps ∧ t.plain.IsLeftBy s (ps.map (·.action)) ∧
      ∀ a : Action, a.Canonical →
        (t.plain.changes a = true ↔ t.plain.same (t.plain.apply a) = false) ∧
        t.memory.wakes a = t.plain.changes a ∧
        (t.recording.apply a).2 = t.plain.changes a := by
  have hagree := agree_postAll s ps
  have hactions : ∀ a ∈ ps.map (·.action), a.Canonical := List.forall_mem_map.2 hps
  refine ⟨hagree, ?_, fun a ha => ⟨?_, ?_, ?_⟩⟩
  · rw [hagree.plain]
    exact Snapshot.isLeftBy_applyAll hs hactions
  · rw [hagree.plain]
    exact Snapshot.changes_iff (Snapshot.canonical_applyAll hs hactions) ha
  · rw [MemoryStore.wakes_eq, hagree.memory]
  · rw [RecordingStore.apply_eq, hagree.recording]

/-- The two zeros are equal values, so the setting keeps the one that it has; and a plugin that is
confirmed a second time is no news. -/
theorem stores_agree_zeros :
    let s : Snapshot :=
      ⟨⟨[], none, none⟩, .empty, Settings.empty.set "ratio" (.float (.zero true))⟩
    let ps : List Posting :=
      [⟨.settingsChanged (Settings.empty.set "ratio" (.float (.zero false))), false⟩,
        ⟨.selected ⟨"a"⟩, false⟩, ⟨.activated ⟨"a"⟩, true⟩, ⟨.activated ⟨"a"⟩, true⟩]
    let t := (ofSnapshot s).postAll ps
    s.settings.Canonical ∧ (∀ p ∈ ps, p.action.Canonical) ∧
      t.Agree s ps ∧ t.plain.IsLeftBy s (ps.map (·.action)) ∧
      t.memory.wakes (.listed [⟨"a"⟩]) = true ∧ t.recording.version = 2 ∧
      t.plain.settings.get? "ratio" = some (.float (.zero true)) := by
  intro s ps t
  have hzero (negative : Bool) :
      (Settings.empty.set "ratio" (.float (.zero negative))).Canonical := by
    intro e he
    obtain rfl := List.mem_singleton.1 he
    exact .float (by cases negative <;> decide)
  have hps : ∀ p ∈ ps, p.action.Canonical := by
    simp only [ps, List.forall_mem_cons]
    exact ⟨hzero false, trivial, trivial, trivial, List.forall_mem_nil _⟩
  obtain ⟨hagree, hleft, hnext⟩ := stores_agree s (hzero true) ps hps
  refine ⟨hzero true, hps, hagree, hleft, ?_, ?_, ?_⟩
  · rw [(hnext (.listed [⟨"a"⟩]) trivial).2.1]
    decide
  · decide
  · rfl

end Stores

end Dashboard
