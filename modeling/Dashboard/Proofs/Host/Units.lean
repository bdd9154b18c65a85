import Dashboard.Host.Headless
import Dashboard.Host.Scripted
import Dashboard.Host.Slots
import Dashboard.Proofs.Host.Lawful
import Mathlib.Data.List.Perm.Basic

/-!
# Units and their entries on the stage

An adapter keeps the plugins of the attached units and not the units themselves. Beside it a ledger
is kept of what was really attached and unmounted, unit by unit, and the stage is compared with it.
The scripted adapter knows of every instance whether it was unmounted, but takes the oldest entry of
its plugin away. A headless instance does not even know that, so that all instances of a plugin are
attached or none is.
-/

namespace Dashboard

/-! ### What a call does to the units -/

/-- The instance that a slot holds. -/
def Slot.unit? : Slot → Option Instance
  | .held i => some i
  | _ => none

namespace Slots

section Units

variable {H : Type}

def unit? (s : Slots H) (n : Nat) : Option Instance := s.slots[n]?.bind Slot.unit?

theorem unit?_length (s : Slots H) : s.unit? s.slots.length = none := by
  rw [unit?, List.getElem?_eq_none (Nat.le_refl _), Option.bind_none]

theorem unit?_append (s : Slots H) (host : H) (slot : Slot) :
    (⟨host, s.slots ++ [slot]⟩ : Slots H).unit? =
      Function.update s.unit? s.slots.length slot.unit? := by
  funext m
  rcases Nat.lt_trichotomy m s.slots.length with hlt | rfl | hgt
  · rw [Function.update_of_ne (Nat.ne_of_lt hlt), unit?, unit?, List.getElem?_append_left hlt]
  · rw [Function.update_self, unit?, List.getElem?_concat_length, Option.bind_some]
  · have hlength : (s.slots ++ [slot]).length ≤ m := by
      rw [List.length_append, List.length_singleton]
      exact hgt
    rw [Function.update_of_ne (Nat.ne_of_gt hgt), unit?, unit?, List.getElem?_eq_none hlength,
      List.getElem?_eq_none (Nat.le_of_lt hgt)]

theorem unit?_set {s : Slots H} {n : Nat} {old : Slot} (hn : s.slots[n]? = some old) (host : H)
    (slot : Slot) : (⟨host, s.slots.set n slot⟩ : Slots H).unit? =
      Function.update s.unit? n slot.unit? := by
  funext m
  by_cases h : m = n
  · obtain ⟨hlt, -⟩ := List.getElem?_eq_some_iff.1 hn
    rw [h, Function.update_self, unit?, List.getElem?_set_self hlt, Option.bind_some]
  · rw [Function.update_of_ne h, unit?, unit?, List.getElem?_set_ne (Ne.symm h)]

theorem unit?_of_held {s : Slots H} {n : Nat} {i : Instance} :
    s.unit? n = some i ↔ s.slots[n]? = some (.held i) := by
  rw [unit?, Option.bind_eq_some_iff]
  constructor
  · rintro ⟨slot, hslot, hunit⟩
    cases slot with
    | held j => exact Option.some.inj hunit ▸ hslot
    | _ => cases hunit
  · intro h
    exact ⟨_, h, rfl⟩

end Units

section Calls

variable {H : Type} [Adapter H]

def attached (s : Slots H) : List PluginId := (Adapter.stage s.host).attached

/-- What can be done with an adapter that is used on its own. -/
inductive Call (H : Type) where
  | mount (id : PluginId) (point : MountPoint)
  | poll (slot : Nat)
  | unmount (slot : Nat)
  /-- Something happens at the adapter. -/
  | adapter (change : H → H)

/-- What happens at the adapter by itself attaches and detaches nothing. -/
def Call.KeepsStage : Call H → Prop
  | .adapter change => ∀ h, Adapter.stage (change h) = Adapter.stage h
  | _ => True

/-- A mount has come to nothing so far, or to a new unit at the end of the stage. -/
inductive Arrives (s : Slots H) (n : Nat) (s' : Slots H) : Prop where
  | quiet (units : s'.unit? = s.unit?) (stage : s'.attached = s.attached)
  | unit (id : PluginId) (free : s.unit? n = none)
      (units : s'.unit? = Function.update s.unit? n (some ⟨id, true⟩))
      (stage : s'.attached = s.attached ++ [id])

/-- A slot without a unit gets the outcome of its mount. -/
theorem arrives_of_settles {s s' : Slots H} {n : Nat} {before : Stage} {id : PluginId}
    {result : MountResult} (hsettles : before.Settles id result (Adapter.stage s'.host))
    (hbefore : before.attached = s.attached) (hfree : s.unit? n = none)
    (hunits : s'.unit? = Function.update s.unit? n (outcome result).unit?) : s.Arrives n s' := by
  cases result with
  | ok i =>
    obtain ⟨rfl, hstage⟩ := hsettles
    refine .unit id hfree hunits ?_
    rw [attached, hstage, Stage.attach, hbefore]
  | error e =>
    have hstage : Adapter.stage s'.host = before := hsettles
    refine .quiet ?_ (by rw [attached, hstage, hbefore])
    rw [hunits]
    exact Function.update_eq_iff.2 ⟨hfree.symm, fun _ _ => rfl⟩

theorem arrives_mount [LawfulAdapter H] (s : Slots H) (id : PluginId) (point : MountPoint) :
    s.Arrives s.slots.length (s.mount id point).1 := by
  unfold mount
  generalize hctx : MountContext.mk "main" id point 1 (.detached id) = ctx
  have hplugin : ctx.plugin = id := hctx ▸ rfl
  cases hmount : Adapter.mount s.host ctx with
  | mk host request =>
    cases request with
    | ready result =>
      exact arrives_of_settles (LawfulAdapter.mount_ready hmount) rfl s.unit?_length
        (unit?_append s host _)
    | pending ticket =>
      obtain ⟨-, hstage⟩ := LawfulAdapter.mount_pending hmount
      refine .quiet ?_ ?_
      · dsimp only
        rw [unit?_append]
        exact Function.update_eq_iff.2 ⟨s.unit?_length.symm, fun _ _ => rfl⟩
      · dsimp only [attached]
        rw [hstage, Stage.request]

theorem arrives_poll [LawfulAdapter H] (s : Slots H) (n : Nat) : s.Arrives n (s.poll n).1 := by
  unfold poll
  split
  · rename_i ticket hslot
    have hfree : s.unit? n = none := by rw [unit?, hslot]; rfl
    split
    · rename_i host result hpoll
      exact arrives_of_settles (LawfulAdapter.poll_settled hpoll) rfl hfree
        (unit?_set hslot host _)
    · rename_i host progress hprogress hpoll
      have hstage := LawfulAdapter.poll_unsettled hpoll fun result heq => hprogress result heq
      exact .quiet rfl (congrArg Stage.attached hstage)
  · exact .quiet rfl rfl

/-- How an adapter unmounts: it takes the oldest entry of the plugin off the stage, unless it knows
better. -/
class UnmountsOldest (H : Type) [Adapter H] where
  /-- Whether an entry is taken for this instance. -/
  detaches : Instance → Bool
  attached_unmount (h : H) (i : Instance) :
    (Adapter.stage (Adapter.unmount h i).1).attached =
      if detaches i then (Adapter.stage h).attached.erase i.plugin else (Adapter.stage h).attached
  live_unmount (h : H) (i : Instance) : (Adapter.unmount h i).2 = { i with live := false }

instance : UnmountsOldest Headless where
  detaches _ := true
  attached_unmount h i := by
    show (Headless.unmount h i).1.stage.attached = h.stage.attached.erase i.plugin
    unfold Headless.unmount
    split
    · rfl
    · rename_i hcontains
      have hmissing : i.plugin ∉ h.stage.attached := mt List.contains_iff_mem.2 hcontains
      exact (List.erase_of_not_mem hmissing).symm
  live_unmount h i := by
    show (Headless.unmount h i).2 = _
    unfold Headless.unmount
    split <;> rfl

instance : UnmountsOldest Scripted where
  detaches := Instance.live
  attached_unmount h i := by
    show (Scripted.unmount h i).1.stage.attached = _
    unfold Scripted.unmount
    split <;> rfl
  live_unmount h i := by
    show (Scripted.unmount h i).2 = _
    unfold Scripted.unmount
    split
    · rfl
    · rename_i hlive
      obtain ⟨plugin, live⟩ := i
      have hgone : live = false := Bool.not_eq_true _ ▸ hlive
      exact congrArg (Instance.mk plugin) hgone

theorem unmount_of_free {s : Slots H} {n : Nat} (h : s.unit? n = none) : s.unmount n = s := by
  unfold unmount
  split
  · rename_i hslot
    rw [unit?_of_held.2 hslot] at h
    cases h
  · rfl

theorem unit?_unmount [UnmountsOldest H] {s : Slots H} {n : Nat} {i : Instance}
    (h : s.unit? n = some i) :
    (s.unmount n).unit? = Function.update s.unit? n (some { i with live := false }) := by
  have hslot := unit?_of_held.1 h
  rw [unmount, hslot]
  dsimp only
  rw [unit?_set hslot, UnmountsOldest.live_unmount, Slot.unit?]

theorem attached_unmount [UnmountsOldest H] {s : Slots H} {n : Nat} {i : Instance}
    (h : s.unit? n = some i) :
    (s.unmount n).attached =
      if UnmountsOldest.detaches H i then s.attached.erase i.plugin else s.attached := by
  rw [unmount, unit?_of_held.1 h]
  exact UnmountsOldest.attached_unmount s.host i

end Calls

/-! ### The ledger -/

/-- An adapter in use, and what became of the units that were attached. -/
structure Ledger (H : Type) where
  slots : Slots H
  /-- The units that have not been unmounted, oldest first: their slots and plugins. -/
  present : List (Nat × PluginId)
  /-- The units that have been unmounted. -/
  gone : List (Nat × PluginId)

namespace Ledger

variable {H : Type}

def start (host : H) : Ledger H := ⟨⟨host, []⟩, [], []⟩

/-- Enters the unit that came into a slot, if there is one. -/
def enter (l : Ledger H) (n : Nat) (s : Slots H) : Ledger H :=
  match l.slots.unit? n, s.unit? n with
  | none, some i => ⟨s, l.present ++ [(n, i.plugin)], l.gone⟩
  | _, _ => ⟨s, l.present, l.gone⟩

/-- The plugins of the units that have not been unmounted, oldest first. -/
def ids (l : Ledger H) : List PluginId := l.present.map Prod.snd

/-- The ledger has every unit in its place. -/
structure Kept (l : Ledger H) : Prop where
  nodup : (l.present.map Prod.fst).Nodup
  present : ∀ n id, (n, id) ∈ l.present ↔ l.slots.unit? n = some ⟨id, true⟩
  gone : ∀ n id, (n, id) ∈ l.gone ↔ l.slots.unit? n = some ⟨id, false⟩

variable {l : Ledger H} {n : Nat} {s : Slots H} {i : Instance} {id : PluginId}

theorem kept_start (host : H) : (start host).Kept where
  nodup := List.nodup_nil
  present _ _ := by simp [start, unit?]
  gone _ _ := by simp [start, unit?]

theorem Kept.live_iff (h : l.Kept) (hi : l.slots.unit? n = some i) :
    (n, i.plugin) ∈ l.present ↔ i.live = true := by
  rw [h.present, hi, Option.some.injEq]
  constructor
  · intro heq
    rw [heq]
  · intro hlive
    rw [← hlive]

theorem Kept.gone_iff (h : l.Kept) (hi : l.slots.unit? n = some i) :
    (n, i.plugin) ∈ l.gone ↔ i.live = false := by
  rw [h.gone, hi, Option.some.injEq]
  constructor
  · intro heq
    rw [heq]
  · intro hgone
    rw [← hgone]

theorem enter_of_quiet (h : s.unit? = l.slots.unit?) : l.enter n s = ⟨s, l.present, l.gone⟩ := by
  rw [enter, h]
  cases l.slots.unit? n <;> rfl

theorem enter_of_unit (hfree : l.slots.unit? n = none) (hunit : s.unit? n = some i) :
    l.enter n s = ⟨s, l.present ++ [(n, i.plugin)], l.gone⟩ := by
  rw [enter, hfree, hunit]

variable [Adapter H]

def apply (l : Ledger H) : Call H → Ledger H
  | .mount id point => l.enter l.slots.slots.length (l.slots.mount id point).1
  | .poll n => l.enter n (l.slots.poll n).1
  | .unmount n =>
    ⟨l.slots.unmount n, l.present.filter (·.1 ≠ n), l.gone ++ l.present.filter (·.1 = n)⟩
  | .adapter change => { l with slots := ⟨change l.slots.host, l.slots.slots⟩ }

def run (l : Ledger H) (calls : List (Call H)) : Ledger H := calls.foldl apply l

theorem run_concat (l : Ledger H) (calls : List (Call H)) (c : Call H) :
    l.run (calls ++ [c]) = (l.run calls).apply c := by
  rw [run, List.foldl_append]
  rfl

theorem Kept.enter (h : l.Kept) (harrives : l.slots.Arrives n s) : (l.enter n s).Kept := by
  cases harrives with
  | quiet hunits hstage =>
    rw [enter_of_quiet hunits]
    exact ⟨h.nodup, fun m id => by rw [hunits]; exact h.present m id,
      fun m id => by rw [hunits]; exact h.gone m id⟩
  | unit new hfree hunits hstage =>
    have hunit : s.unit? n = some ⟨new, true⟩ := by rw [hunits, Function.update_self]
    have hother {m : Nat} (hm : m ≠ n) : s.unit? m = l.slots.unit? m := by
      rw [hunits, Function.update_of_ne hm]
    rw [enter_of_unit hfree hunit]
    constructor
    · have hnew : n ∉ l.present.map Prod.fst := by
        intro hmem
        obtain ⟨⟨m, id⟩, hentry, rfl⟩ := List.mem_map.1 hmem
        rw [(h.present m id).1 hentry] at hfree
        cases hfree
      rw [List.map_append, List.nodup_append]
      refine ⟨h.nodup, List.pairwise_singleton _ n, fun m hm k hk heq => hnew ?_⟩
      have hk' : k = n := List.mem_singleton.1 hk
      rwa [← hk', ← heq]
    · intro m id
      by_cases hm : m = n
      · subst hm
        simp [hunit, h.present, hfree, eq_comm]
      · simp [hother hm, h.present, hm]
    · intro m id
      by_cases hm : m = n
      · subst hm
        simp [hunit, h.gone, hfree]
      · rw [hother hm]
        exact h.gone m id

theorem Kept.unmount [UnmountsOldest H] (h : l.Kept) (n : Nat) : (l.apply (.unmount n)).Kept := by
  have hnodup : ((l.present.filter (·.1 ≠ n)).map Prod.fst).Nodup :=
    h.nodup.sublist (List.filter_sublist.map _)
  cases hunit : l.slots.unit? n with
  | none =>
    have hslots : l.slots.unmount n = l.slots := unmount_of_free hunit
    refine ⟨hnodup, fun m id => ?_, fun m id => ?_⟩
    · by_cases hm : m = n
      · subst hm
        simp [apply, hslots, hunit]
      · simp [apply, hslots, h.present, hm]
    · by_cases hm : m = n
      · subst hm
        simp [apply, hslots, hunit, h.gone, h.present]
      · simp [apply, hslots, h.gone, hm]
  | some i =>
    obtain ⟨plugin, live⟩ := i
    have hunits : (l.slots.unmount n).unit? =
        Function.update l.slots.unit? n (some ⟨plugin, false⟩) := unit?_unmount hunit
    refine ⟨hnodup, fun m id => ?_, fun m id => ?_⟩
    · by_cases hm : m = n
      · subst hm
        simp [apply, hunits]
      · simp [apply, hunits, h.present, hm]
    · by_cases hm : m = n
      · subst hm
        cases live <;> simp [apply, hunits, h.gone, h.present, hunit]
      · simp [apply, hunits, h.gone, hm]

variable [LawfulAdapter H] [UnmountsOldest H]

theorem Kept.apply (h : l.Kept) (c : Call H) : (l.apply c).Kept := by
  cases c with
  | mount id point => exact h.enter (arrives_mount l.slots id point)
  | poll n => exact h.enter (arrives_poll l.slots n)
  | unmount n => exact h.unmount n
  | adapter change => exact ⟨h.nodup, h.present, h.gone⟩

theorem Kept.run (h : l.Kept) (calls : List (Call H)) : (l.run calls).Kept := by
  induction calls generalizing l with
  | nil => exact h
  | cons c calls ih => exact ih (h.apply c)

end Ledger

end Slots

end Dashboard
