import Dashboard.Host.Headless
import Dashboard.Host.Scripted

/-!
# Lawful adapters

An adapter is lawful when a mount that succeeds attaches one unit of its plugin, a mount that fails
or is given up attaches none, and an attached unit that is unmounted is detached. Everything proved
about what is attached rests on these laws. The headless and the scripted adapter are lawful.
-/

namespace Dashboard

namespace Stage

/-- Every unit that was ever attached is attached still or was detached once. -/
def Balanced (s : Stage) : Prop :=
  ∀ id, s.attachments.count id = s.detachments.count id + s.attached.count id

theorem balanced_empty : empty.Balanced := fun _ => rfl

theorem Balanced.request {s : Stage} (h : s.Balanced) (id : PluginId) : (s.request id).Balanced := h

theorem Balanced.attach {s : Stage} (h : s.Balanced) (id : PluginId) : (s.attach id).Balanced := by
  intro other
  have hother := h other
  simp only [Stage.attach, List.count_append]
  omega

theorem Balanced.detach {s : Stage} (h : s.Balanced) {id : PluginId} (hid : id ∈ s.attached) :
    (s.detach id).Balanced := by
  intro other
  have hother := h other
  simp only [Stage.detach, List.count_append]
  by_cases heq : other = id
  · subst heq
    have hpos : 0 < s.attached.count other := List.count_pos_iff.2 hid
    rw [List.count_erase_self, List.count_singleton_self]
    omega
  · rw [List.count_erase_of_ne heq, List.count_singleton, if_neg (by simpa using Ne.symm heq)]
    omega

/-- At most the given plugin is attached, by one unit, and the books balance. -/
structure Shows (s : Stage) (shown : Option PluginId) : Prop where
  attached : s.attached = shown.toList
  balanced : s.Balanced

theorem shows_empty : empty.Shows none := ⟨rfl, balanced_empty⟩

theorem Shows.request {s : Stage} {shown : Option PluginId} (h : s.Shows shown) (id : PluginId) :
    (s.request id).Shows shown := ⟨h.attached, h.balanced.request id⟩

theorem Shows.attach {s : Stage} (h : s.Shows none) (id : PluginId) :
    (s.attach id).Shows (some id) where
  attached := by simp [Stage.attach, h.attached]
  balanced := h.balanced.attach id

theorem Shows.detach {s : Stage} {id : PluginId} (h : s.Shows (some id)) :
    (s.detach id).Shows none where
  attached := by simp [Stage.detach, h.attached]
  balanced := h.balanced.detach (by simp [h.attached])

theorem mem_attached_attach (s : Stage) (id : PluginId) : id ∈ (s.attach id).attached := by
  simp [attach]

/-- A unit that is detached as soon as it attached leaves behind what was there, also when it
belongs to the plugin that is shown. -/
theorem Shows.detach_attach {s : Stage} {shown : Option PluginId} (h : s.Shows shown)
    (id : PluginId) : ((s.attach id).detach id).Shows shown where
  attached := by
    simp only [Stage.attach, Stage.detach, h.attached]
    cases shown with
    | none => simp
    | some other =>
      by_cases heq : other = id
      · simp [heq]
      · simp [heq]
  balanced := (h.balanced.attach id).detach (mem_attached_attach s id)

/-- Units of some plugins were attached and detached again, in this order. -/
structure Passed (s : Stage) (ids : List PluginId) (s' : Stage) : Prop where
  mounts : s'.mounts = s.mounts
  attachments : s'.attachments = s.attachments ++ ids
  detachments : s'.detachments = s.detachments ++ ids

theorem Passed.refl (s : Stage) : s.Passed [] s :=
  ⟨rfl, (List.append_nil _).symm, (List.append_nil _).symm⟩

theorem Passed.trans {s s' s'' : Stage} {ids ids' : List PluginId} (h : s.Passed ids s')
    (h' : s'.Passed ids' s'') : s.Passed (ids ++ ids') s'' where
  mounts := h'.mounts.trans h.mounts
  attachments := by rw [h'.attachments, h.attachments, List.append_assoc]
  detachments := by rw [h'.detachments, h.detachments, List.append_assoc]

/-- The stage on which a mount of a plugin ended, given the stage before. -/
def Settles (before : Stage) (id : PluginId) : MountResult → Stage → Prop
  | .ok i, after => i = ⟨id, true⟩ ∧ after = before.attach id
  | .error _, after => after = before

end Stage

/-- The laws of an adapter. -/
class LawfulAdapter (H : Type) [Adapter H] : Prop where
  mount_ready {h h' : H} {ctx : MountContext} {result : MountResult} :
    Adapter.mount h ctx = (h', .ready result) →
      ((Adapter.stage h).request ctx.plugin).Settles ctx.plugin result (Adapter.stage h')
  mount_pending {h h' : H} {ctx : MountContext} {t : Ticket} :
    Adapter.mount h ctx = (h', .pending t) →
      t.plugin = ctx.plugin ∧ Adapter.stage h' = (Adapter.stage h).request ctx.plugin
  poll_settled {h h' : H} {t : Ticket} {result : MountResult} :
    Adapter.poll h t = (h', .settled result) →
      (Adapter.stage h).Settles t.plugin result (Adapter.stage h')
  poll_unsettled {h h' : H} {t : Ticket} {progress : Progress} :
    Adapter.poll h t = (h', progress) → (∀ result, progress ≠ .settled result) →
      Adapter.stage h' = Adapter.stage h
  cancel {h : H} {t : Ticket} : Adapter.stage (Adapter.cancel h t) = Adapter.stage h
  unmount {h : H} {i : Instance} :
    i.live = true → i.plugin ∈ (Adapter.stage h).attached →
      Adapter.stage (Adapter.unmount h i).1 = (Adapter.stage h).detach i.plugin

namespace Headless

instance : LawfulAdapter Headless where
  mount_ready {h h' ctx result} hmount := by
    change mount h ctx = _ at hmount
    unfold mount at hmount
    cases hpoint : ctx.mount <;> simp only [hpoint, attach] at hmount
    case bundle => simp at hmount
    all_goals
      obtain ⟨rfl, hready⟩ := Prod.mk.inj hmount
      cases MountRequest.ready.inj hready
      exact ⟨rfl, rfl⟩
  mount_pending {h h' ctx t} hmount := by
    change mount h ctx = _ at hmount
    unfold mount at hmount
    cases hpoint : ctx.mount <;> simp only [hpoint, attach] at hmount
    case bundle =>
      obtain ⟨rfl, hpending⟩ := Prod.mk.inj hmount
      cases MountRequest.pending.inj hpending
      exact ⟨rfl, rfl⟩
    all_goals simp at hmount
  poll_settled {h h' t result} hpoll := by
    change poll h t = _ at hpoll
    unfold poll at hpoll
    split at hpoll
    · simp only [attach] at hpoll
      obtain ⟨rfl, hsettled⟩ := Prod.mk.inj hpoll
      cases Progress.settled.inj hsettled
      exact ⟨rfl, rfl⟩
    · simp at hpoll
  poll_unsettled {h h' t progress} hpoll hprogress := by
    change poll h t = _ at hpoll
    unfold poll at hpoll
    split at hpoll
    · exact absurd (Prod.mk.inj hpoll).2.symm (hprogress _)
    · exact (Prod.mk.inj hpoll).1 ▸ rfl
  cancel := rfl
  unmount {h i} _ hattached := by
    have hcontains : h.stage.attached.contains i.plugin = true :=
      List.contains_iff_mem.2 hattached
    change (unmount h i).1.stage = _
    unfold unmount
    rw [if_pos hcontains]
    rfl

end Headless

namespace Scripted

instance : LawfulAdapter Scripted where
  mount_ready {h h' ctx result} hmount := by
    change mount h ctx = _ at hmount
    unfold mount at hmount
    dsimp only at hmount
    split at hmount
    · simp only [attach] at hmount
      obtain ⟨rfl, hready⟩ := Prod.mk.inj hmount
      cases MountRequest.ready.inj hready
      exact ⟨rfl, rfl⟩
    · obtain ⟨rfl, hready⟩ := Prod.mk.inj hmount
      cases MountRequest.ready.inj hready
      exact rfl
    · simp at hmount
  mount_pending {h h' ctx t} hmount := by
    change mount h ctx = _ at hmount
    unfold mount at hmount
    dsimp only at hmount
    split at hmount
    · simp [attach] at hmount
    · simp at hmount
    · obtain ⟨rfl, hpending⟩ := Prod.mk.inj hmount
      cases MountRequest.pending.inj hpending
      exact ⟨rfl, rfl⟩
  poll_settled {h h' t result} hpoll := by
    change poll h t = _ at hpoll
    unfold poll at hpoll
    split at hpoll
    · simp at hpoll
    · obtain ⟨rfl, hsettled⟩ := Prod.mk.inj hpoll
      cases Progress.settled.inj hsettled
      exact rfl
    · simp only [attach] at hpoll
      obtain ⟨rfl, hsettled⟩ := Prod.mk.inj hpoll
      cases Progress.settled.inj hsettled
      exact ⟨rfl, rfl⟩
  poll_unsettled {h h' t progress} hpoll hprogress := by
    change poll h t = _ at hpoll
    unfold poll at hpoll
    split at hpoll
    · exact (Prod.mk.inj hpoll).1 ▸ rfl
    · exact absurd (Prod.mk.inj hpoll).2.symm (hprogress _)
    · exact absurd (Prod.mk.inj hpoll).2.symm (hprogress _)
  cancel := rfl
  unmount {h i} hlive _ := by
    change (unmount h i).1.stage = _
    unfold unmount
    rw [if_pos hlive]
    rfl

theorem stage_openGate (s : Scripted) (id : PluginId) (failure : Option String) :
    (s.openGate id failure).1.stage = s.stage := by
  unfold openGate
  split
  · rfl
  · dsimp only
    split <;> rfl

theorem stage_ofScript (script : List (PluginId × Behavior)) :
    (ofScript script).stage = .empty := by
  unfold ofScript
  generalize hstart : empty = s
  have hstage : s.stage = .empty := hstart ▸ rfl
  clear hstart
  induction script generalizing s with
  | nil => exact hstage
  | cons e script ih => exact ih _ hstage

end Scripted

end Dashboard
