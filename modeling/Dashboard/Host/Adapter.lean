import Dashboard.Error
import Dashboard.Host.Deactivation
import Dashboard.Plugin.MountPoint
import Dashboard.Text.Quoted

/-!
# Host adapters

An adapter attaches the rendering unit of a plugin to a region of the dashboard and detaches it
again. A mount settles at once or is in flight until the adapter, polled with the ticket of the
mount, says that it has settled. Whatever is attached stands on the stage of the adapter.
-/

namespace Dashboard

/-- What is attached, and what has been attached and detached so far, oldest first. -/
structure Stage where
  attached : List PluginId
  /-- Every plugin for which a mount was requested. -/
  mounts : List PluginId
  attachments : List PluginId
  detachments : List PluginId
  deriving DecidableEq, Inhabited

namespace Stage

def empty : Stage := ⟨[], [], [], []⟩

def request (s : Stage) (id : PluginId) : Stage := { s with mounts := s.mounts ++ [id] }

def attach (s : Stage) (id : PluginId) : Stage :=
  { s with attached := s.attached ++ [id], attachments := s.attachments ++ [id] }

def detach (s : Stage) (id : PluginId) : Stage :=
  { s with attached := s.attached.erase id, detachments := s.detachments ++ [id] }

/-- The plugins for which a mount was requested, each once. -/
def mountedIds (s : Stage) : List PluginId := s.mounts.eraseDups

end Stage

/-- A rendering unit that was attached. -/
structure Instance where
  plugin : PluginId
  /-- Whether the unit has not been unmounted yet. -/
  live : Bool
  deriving DecidableEq, Repr

/-- How a mount attempt ended. -/
abbrev MountResult := Except MountError Instance

/-- Names a mount in flight at an adapter. -/
structure Ticket where
  plugin : PluginId
  key : Nat
  deriving DecidableEq, Repr

/-- What an adapter needs to mount a plugin. -/
structure MountContext where
  region : String
  plugin : PluginId
  mount : MountPoint
  generation : Nat
  handle : DeactivationHandle

/-- What an adapter answers to a mount. -/
inductive MountRequest where
  /-- The unit rendered or failed at once. -/
  | ready (result : MountResult)
  /-- The mount is in flight. -/
  | pending (ticket : Ticket)

/-- What an adapter answers about a mount in flight. -/
inductive Progress where
  | settled (result : MountResult)
  /-- Nothing happens until something else wakes the mount. -/
  | waiting
  /-- The mount goes on by itself at the next turn. A mount yields at most once. -/
  | yielded

/-- Adapters with state `H`. -/
class Adapter (H : Type) where
  name : String
  /-- Starts to mount a plugin. -/
  mount : H → MountContext → H × MountRequest
  /-- Looks after a mount in flight. -/
  poll : H → Ticket → H × Progress
  /-- Gives up a mount in flight; nothing is attached on its behalf. -/
  cancel : H → Ticket → H
  /-- Detaches an instance. -/
  unmount : H → Instance → H × Instance
  /-- Whether an instance is attached. -/
  isAttached : H → Instance → Bool
  stage : H → Stage

namespace MountRequest

def describeInstance (plugin : PluginId) (attached : Bool) : String :=
  "MountedInstance \x7b plugin_id: PluginId(" ++ Text.quoted plugin.text ++ "), attached: "
    ++ (if attached then "true" else "false") ++ " \x7d"

def describeError (e : MountError) : String :=
  "PluginMountError \x7b plugin_id: PluginId(" ++ Text.quoted e.plugin.text ++ "), message: "
    ++ Text.quoted e.message ++ ", source: "
    ++ (match e.source with | none => "None" | some s => "Some(" ++ Text.quoted s ++ ")")
    ++ " \x7d"

/-- The answer to a mount in a diagnostic, as the adapter stands after it. -/
def describe {H : Type} [Adapter H] (h : H) : MountRequest → String
  | ready (.ok i) => "Ready(" ++ describeInstance i.plugin (Adapter.isAttached h i) ++ ")"
  | ready (.error e) => "Ready(" ++ describeError e ++ ")"
  | pending _ => "Pending(..)"

end MountRequest

end Dashboard
