import Dashboard.Plugin.Id

/-!
# Deactivation

A mounted plugin may ask to be torn down. Each mount attempt hands the plugin a handle tagged with
its generation, and what is sent through a handle waits in the mailbox of the container until the
container looks.
-/

namespace Dashboard

/-- A plugin asks to be torn down, on behalf of one mount attempt. -/
structure DeactivationRequest where
  plugin : PluginId
  generation : Nat
  deriving DecidableEq, Repr

/-- The requests that wait for a container, oldest first. -/
structure Mailbox where
  queue : List DeactivationRequest
  closed : Bool
  deriving DecidableEq, Inhabited

namespace Mailbox

def empty : Mailbox := ⟨[], false⟩

/-- Adds a request at the end and says whether it was taken: a closed mailbox takes none. -/
def send (m : Mailbox) (r : DeactivationRequest) : Mailbox × Bool :=
  if m.closed then (m, false) else ({ m with queue := m.queue ++ [r] }, true)

/-- Takes no more requests. Those already waiting stay. -/
def close (m : Mailbox) : Mailbox := { m with closed := true }

end Mailbox

/-- The callback of one mount attempt. -/
structure DeactivationHandle where
  plugin : PluginId
  generation : Nat
  /-- Whether the handle leads to the mailbox of a container. -/
  connected : Bool
  deriving DecidableEq, Repr

namespace DeactivationHandle

/-- A handle whose requests go nowhere. -/
def detached (plugin : PluginId) : DeactivationHandle := ⟨plugin, 0, false⟩

def request (h : DeactivationHandle) : DeactivationRequest := ⟨h.plugin, h.generation⟩

/-- Asks to be torn down, and says whether the request was taken. -/
def deactivate (h : DeactivationHandle) (m : Mailbox) : Mailbox × Bool :=
  if h.connected then m.send h.request else (m, false)

def deactivateTimes (h : DeactivationHandle) : Nat → Mailbox → Mailbox × List Bool
  | 0, m => (m, [])
  | n + 1, m =>
    let (m, sent) := h.deactivate m
    let (m, rest) := h.deactivateTimes n m
    (m, sent :: rest)

end DeactivationHandle

end Dashboard
