import Dashboard.Proofs.Container.Ledger
import Dashboard.Proofs.Host.Lawful

/-!
# A watched adapter

An adapter may be wrapped so that it notes, each time it is asked to mount a plugin, what was
attached at that moment. Nothing else changes: a run of a container over the wrapped adapter is the
run over the adapter itself.
-/

namespace Dashboard

/-- An adapter, and what was attached at each call of `mount` so far. -/
structure Watched (H : Type) where
  host : H
  calls : List (List PluginId)

namespace Watched

variable {H : Type}

def of (host : H) : Watched H := ⟨host, []⟩

variable [Adapter H]

instance : Adapter (Watched H) where
  name := Adapter.name H
  mount w ctx :=
    let answer := Adapter.mount w.host ctx
    (⟨answer.1, w.calls ++ [(Adapter.stage w.host).attached]⟩, answer.2)
  poll w t :=
    let answer := Adapter.poll w.host t
    ({ w with host := answer.1 }, answer.2)
  cancel w t := { w with host := Adapter.cancel w.host t }
  unmount w i :=
    let answer := Adapter.unmount w.host i
    ({ w with host := answer.1 }, answer.2)
  isAttached w i := Adapter.isAttached w.host i
  stage w := Adapter.stage w.host

theorem mount_eq {w : Watched H} {ctx : MountContext} {host : H} {request : MountRequest}
    (h : Adapter.mount w.host ctx = (host, request)) :
    Adapter.mount w ctx = (⟨host, w.calls ++ [(Adapter.stage w.host).attached]⟩, request) := by
  change ((⟨(Adapter.mount w.host ctx).1, _⟩ : Watched H), (Adapter.mount w.host ctx).2) = _
  rw [h]

theorem poll_eq {w : Watched H} {t : Ticket} {host : H} {progress : Progress}
    (h : Adapter.poll w.host t = (host, progress)) :
    Adapter.poll w t = ({ w with host := host }, progress) := by
  change (({ w with host := (Adapter.poll w.host t).1 } : Watched H), (Adapter.poll w.host t).2) = _
  rw [h]

/-- The adapter below the notes. -/
def projection : Projection (Watched H) H where
  below := host
  lift change w := { w with host := change w.host }
  below_lift _ _ := rfl
  mount _ _ := rfl
  poll _ _ := rfl
  cancel _ _ := rfl
  unmount _ _ := rfl

/-- The notes of the adapter. -/
def ledger : Ledger (Watched H) (List PluginId) where
  entries := calls
  entry w _ := (Adapter.stage w).attached
  mount _ _ := rfl
  poll _ _ := rfl
  cancel _ _ := rfl
  unmount _ _ := rfl

end Watched

end Dashboard
