import Dashboard.Host.Adapter

/-!
# Mounts outside a container

An adapter can be used on its own. Each mount takes a numbered slot that follows what becomes of it:
in flight, attached, failed, or given away.
-/

namespace Dashboard

/-- What became of a mount. -/
inductive Slot where
  | pending (ticket : Ticket)
  | held (unit : Instance)
  | failed (error : MountError)
  | gone

/-- An adapter and the mounts made with it. -/
structure Slots (H : Type) where
  host : H
  slots : List Slot

namespace Slots

variable {H : Type} [Adapter H]

def outcome : MountResult → Slot
  | .ok i => .held i
  | .error e => .failed e

def mount (s : Slots H) (id : PluginId) (point : MountPoint) : Slots H × MountRequest :=
  let (host, request) := Adapter.mount s.host
    { region := "main", plugin := id, mount := point, generation := 1, handle := .detached id }
  let slot := match request with
    | .ready result => outcome result
    | .pending ticket => .pending ticket
  (⟨host, s.slots ++ [slot]⟩, request)

/-- Polls a mount in flight once, and says whether it settled. -/
def poll (s : Slots H) (n : Nat) : Slots H × Bool :=
  match s.slots[n]? with
  | some (.pending ticket) =>
    match Adapter.poll s.host ticket with
    | (host, .settled result) => (⟨host, s.slots.set n (outcome result)⟩, true)
    | (host, _) => (⟨host, s.slots⟩, false)
  | _ => (s, false)

/-- Unmounts the instance in a slot, if there is one. -/
def unmount (s : Slots H) (n : Nat) : Slots H :=
  match s.slots[n]? with
  | some (.held i) =>
    let (host, i) := Adapter.unmount s.host i
    ⟨host, s.slots.set n (.held i)⟩
  | _ => s

/-- Gives a slot away: a mount in flight is given up, an instance stays as it is. -/
def drop (s : Slots H) (n : Nat) : Slots H :=
  match s.slots[n]? with
  | some (.pending ticket) => ⟨Adapter.cancel s.host ticket, s.slots.set n .gone⟩
  | some _ => { s with slots := s.slots.set n .gone }
  | none => s

end Slots

end Dashboard
