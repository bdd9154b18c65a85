import Dashboard.Host.Headless
import Dashboard.Host.Scripted
import Dashboard.Proofs.Container.Projection

/-!
# What is asked of an adapter

An adapter may keep a ledger with one entry for each call of `mount`. A container writes into it in
one place only: the delivery of a state that makes it mount a plugin adds the entry of that mount,
and no other event adds anything.
-/

namespace Dashboard

/-- A record with one entry for each mount that an adapter was asked for, oldest first. -/
structure Ledger (H : Type) [Adapter H] (N : Type) where
  entries : H → List N
  entry : H → MountContext → N
  mount (h : H) (ctx : MountContext) :
    entries (Adapter.mount h ctx).1 = entries h ++ [entry h ctx]
  poll (h : H) (t : Ticket) : entries (Adapter.poll h t).1 = entries h
  cancel (h : H) (t : Ticket) : entries (Adapter.cancel h t) = entries h
  unmount (h : H) (i : Instance) : entries (Adapter.unmount h i).1 = entries h

namespace Container

variable {H N : Type} [Adapter H]

/-- The mount that an event makes the container ask for. -/
def request? (c : Container H) : Event H → Option MountContext
  | .deliver s => (c.launch? s).map (c.cleared s).mountContext
  | _ => none

omit [Adapter H] in
theorem launch?_eq_none {c : Container H} {s : Snapshot} (hheard : c.hears s = false) :
    c.launch? s = none := by
  rw [launch?, hheard]
  rfl

omit [Adapter H] in
theorem launch?_eq_none_of_target {c : Container H} {s : Snapshot}
    (htarget : c.registry.target s = c.phase.plugin?) : c.launch? s = none := by
  simp [launch?, htarget]

end Container

namespace Ledger

open Container (release drain)

variable {H N : Type} [Adapter H] (l : Ledger H N)

/-- What happens at the adapter leaves the ledger alone. -/
def Kept : Container.Event H → Prop
  | .adapter change => ∀ h, l.entries (change h) = l.entries h
  | _ => True

theorem kept_lift {W : Type} [Adapter W] (l : Ledger W N) (p : Projection W H)
    (hlift : ∀ change w, l.entries (p.lift change w) = l.entries w) (e : Container.Event H) :
    l.Kept (e.lift p) := by
  cases e with
  | adapter change => exact hlift change
  | _ => trivial

theorem entries_release (h : H) (current : Option Instance) :
    l.entries (release h current) = l.entries h := by
  cases current with
  | none => rfl
  | some i => exact l.unmount h i

theorem entries_of_poll {h host : H} {t : Ticket} {progress : Progress}
    (hpoll : Adapter.poll h t = (host, progress)) : l.entries host = l.entries h := by
  have hkept := l.poll h t
  rw [hpoll] at hkept
  exact hkept

theorem entries_of_mount {h host : H} {ctx : MountContext} {request : MountRequest}
    (hmount : Adapter.mount h ctx = (host, request)) :
    l.entries host = l.entries h ++ [l.entry h ctx] := by
  have hadded := l.mount h ctx
  rw [hmount] at hadded
  exact hadded

theorem entries_drain (h : H) (ms : List InFlight) : l.entries (drain h ms) = l.entries h := by
  induction ms generalizing h with
  | nil => rfl
  | cons m ms ih =>
    rcases hpoll : Adapter.poll h m.ticket with ⟨host, progress⟩
    have hpolled := l.entries_of_poll hpoll
    simp only [drain, hpoll]
    cases progress with
    | settled result =>
      cases result with
      | ok i => exact (ih _).trans ((l.unmount host i).trans hpolled)
      | error e => exact (ih host).trans hpolled
    | waiting => exact (ih _).trans ((l.cancel host m.ticket).trans hpolled)
    | yielded => exact (ih _).trans ((l.cancel host m.ticket).trans hpolled)

/-- An event adds the entry of the mount that it makes the container ask for, and no other. -/
theorem entries_step (c : Container H) {e : Container.Event H} (he : l.Kept e) :
    l.entries (c.step e).1.host =
      l.entries c.host ++ (c.request? e).toList.map (l.entry (release c.host c.current)) := by
  have hout := Container.step_outcome c e
  generalize c.step e = after at hout
  have hreleased := l.entries_release c.host c.current
  have hquiet {h : H} (hkept : l.entries h = l.entries c.host) :
      l.entries h = l.entries c.host ++ [] := by rw [hkept, List.append_nil]
  cases hout with
  | unheard hheard =>
    simp only [Container.request?, Container.launch?_eq_none hheard]
    exact hquiet rfl
  | unmoved hheard htarget =>
    simp only [Container.request?, Container.launch?_eq_none_of_target htarget]
    exact hquiet rfl
  | @emptied s hheard htarget hphase =>
    have hlaunch : c.launch? s = none := by simp [Container.launch?, htarget]
    simp only [Container.request?, hlaunch]
    exact hquiet hreleased
  | took hlaunch _ hmount | failed hlaunch _ hmount | launched hlaunch _ hmount =>
    simp only [Container.request?, hlaunch]
    rw [← hreleased]
    exact l.entries_of_mount hmount
  | absent | woken | mailbox | ignored | gone => exact hquiet rfl
  | adapter change => exact hquiet (he c.host)
  | confirmed _ _ hpoll | refused _ _ hpoll | unsettled _ hpoll =>
    exact hquiet (l.entries_of_poll hpoll)
  | @stale m host flights result _ _ hpoll =>
    have hpolled := l.entries_of_poll hpoll
    cases result with
    | ok i => exact hquiet ((l.unmount host i).trans hpolled)
    | error e => exact hquiet hpolled
  | deactivated => exact hquiet hreleased
  | ended => exact hquiet ((l.entries_release _ c.current).trans (l.entries_drain c.host _))

theorem entries_looks (c : Container H) (looks : List InFlight) :
    l.entries (c.run (looks.map .look)).host = l.entries c.host := by
  induction looks generalizing c with
  | nil => rfl
  | cons m looks ih =>
    rw [List.map_cons, Container.run_cons, ih,
      l.entries_step c (e := .look m) trivial]
    exact List.append_nil _

end Ledger

/-! ### The mounts on a stage -/

/-- The stage of the adapter notes each mount that was asked for, and no other. -/
class RecordsMounts (H : Type) [Adapter H] : Prop where
  mount (h : H) (ctx : MountContext) : (Adapter.stage (Adapter.mount h ctx).1).mounts =
    (Adapter.stage h).mounts ++ [ctx.plugin]
  poll (h : H) (t : Ticket) : (Adapter.stage (Adapter.poll h t).1).mounts = (Adapter.stage h).mounts
  cancel (h : H) (t : Ticket) :
    (Adapter.stage (Adapter.cancel h t)).mounts = (Adapter.stage h).mounts
  unmount (h : H) (i : Instance) :
    (Adapter.stage (Adapter.unmount h i).1).mounts = (Adapter.stage h).mounts

def Ledger.mounts (H : Type) [Adapter H] [RecordsMounts H] : Ledger H PluginId where
  entries h := (Adapter.stage h).mounts
  entry _ ctx := ctx.plugin
  mount := RecordsMounts.mount
  poll := RecordsMounts.poll
  cancel := RecordsMounts.cancel
  unmount := RecordsMounts.unmount

instance : RecordsMounts Headless where
  mount h ctx := by
    change (Headless.mount h ctx).1.stage.mounts = _
    unfold Headless.mount
    cases ctx.mount <;> rfl
  poll h t := by
    change (Headless.poll h t).1.stage.mounts = _
    unfold Headless.poll
    split <;> rfl
  cancel _ _ := rfl
  unmount h i := by
    change (Headless.unmount h i).1.stage.mounts = _
    unfold Headless.unmount
    split <;> rfl

instance : RecordsMounts Scripted where
  mount s ctx := by
    change (Scripted.mount s ctx).1.stage.mounts = _
    unfold Scripted.mount
    dsimp only
    split <;> rfl
  poll s t := by
    change (Scripted.poll s t).1.stage.mounts = _
    unfold Scripted.poll
    split <;> rfl
  cancel _ _ := rfl
  unmount s i := by
    change (Scripted.unmount s i).1.stage.mounts = _
    unfold Scripted.unmount
    split <;> rfl

end Dashboard
