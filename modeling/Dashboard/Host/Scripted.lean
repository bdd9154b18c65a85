import Dashboard.Host.Adapter

/-!
# The scripted adapter

An adapter that follows a script for each plugin: attach at once, fail at once, or wait at a gate
until the gate is opened with an outcome. It remembers the handles it was given, so that a plugin
can be made to ask for its own deactivation. A gate whose mount was given up stays where it is until
it is opened, to no effect.
-/

namespace Dashboard

inductive Behavior where
  | ready
  | fail (message : String)
  | gated
  deriving DecidableEq, Repr, Inhabited

/-- A mount that waits to be let through. -/
structure Gate where
  plugin : PluginId
  key : Nat
  deriving DecidableEq, Repr

structure Scripted where
  stage : Stage
  /-- The script, newest entry first. Plugins without an entry are attached at once. -/
  behaviors : List (PluginId × Behavior)
  /-- The gates not yet opened, oldest first. -/
  gates : List Gate
  /-- The keys of the mounts in flight. -/
  listening : List Nat
  /-- The outcomes of opened gates that have not been delivered: a message means failure. -/
  outcomes : List (Nat × Option String)
  /-- The handles of all mounts, newest first. -/
  handles : List DeactivationHandle
  nextKey : Nat
  deriving DecidableEq, Inhabited

namespace Scripted

/-- An adapter without a script at which nothing has happened. -/
def empty : Scripted := ⟨.empty, [], [], [], [], [], 0⟩

def behavior (s : Scripted) (id : PluginId) : Behavior := (s.behaviors.lookup id).getD .ready

def setBehavior (s : Scripted) (id : PluginId) (b : Behavior) : Scripted :=
  { s with behaviors := (id, b) :: s.behaviors }

def ofScript (script : List (PluginId × Behavior)) : Scripted :=
  script.foldl (fun s e => s.setBehavior e.1 e.2) empty

def attach (s : Scripted) (id : PluginId) : Scripted × MountResult :=
  ({ s with stage := s.stage.attach id }, .ok ⟨id, true⟩)

def mount (s : Scripted) (ctx : MountContext) : Scripted × MountRequest :=
  let s := { s with stage := s.stage.request ctx.plugin, handles := ctx.handle :: s.handles }
  match s.behavior ctx.plugin with
  | .ready => let (s, result) := s.attach ctx.plugin; (s, .ready result)
  | .fail message => (s, .ready (.error (.of ctx.plugin message)))
  | .gated =>
    ({ s with
        gates := s.gates ++ [⟨ctx.plugin, s.nextKey⟩]
        listening := s.nextKey :: s.listening
        nextKey := s.nextKey + 1 },
      .pending ⟨ctx.plugin, s.nextKey⟩)

def cancel (s : Scripted) (t : Ticket) : Scripted :=
  { s with
    listening := s.listening.erase t.key
    outcomes := s.outcomes.filter fun o => o.1 != t.key }

/-- A gated mount settles once its gate has been opened. -/
def poll (s : Scripted) (t : Ticket) : Scripted × Progress :=
  match s.outcomes.lookup t.key with
  | none => (s, .waiting)
  | some (some message) => (s.cancel t, .settled (.error (.of t.plugin message)))
  | some none => let (s, result) := (s.cancel t).attach t.plugin; (s, .settled result)

def unmount (s : Scripted) (i : Instance) : Scripted × Instance :=
  if i.live then ({ s with stage := s.stage.detach i.plugin }, { i with live := false })
  else (s, i)

instance : Adapter Scripted where
  name := "mock-host"
  mount := mount
  poll := poll
  cancel := cancel
  unmount := unmount
  isAttached _ i := i.live
  stage := stage

/-- Opens the oldest gate of a plugin with an outcome. The answer is the key of the mount that waits
there; it is missing if there is no gate or its mount was given up. -/
def openGate (s : Scripted) (id : PluginId) (failure : Option String) : Scripted × Option Nat :=
  match s.gates.find? (·.plugin == id) with
  | none => (s, none)
  | some gate =>
    let s := { s with gates := s.gates.erase gate }
    if s.listening.contains gate.key then
      ({ s with outcomes := (gate.key, failure) :: s.outcomes }, some gate.key)
    else (s, none)

def waiting (s : Scripted) : Nat := s.gates.length

/-- The handle of the most recent mount of a plugin. -/
def handle? (s : Scripted) (id : PluginId) : Option DeactivationHandle :=
  s.handles.find? (·.plugin == id)

/-- Makes a plugin ask for its deactivation through the handle of its most recent mount, and says
whether the request was taken. -/
def deactivate (s : Scripted) (id : PluginId) (m : Mailbox) : Mailbox × Bool :=
  match s.handle? id with
  | some h => h.deactivate m
  | none => (m, false)

def mountCount (s : Scripted) (id : PluginId) : Nat := s.stage.mounts.count id

def detachCount (s : Scripted) (id : PluginId) : Nat := s.stage.detachments.count id

end Scripted

end Dashboard
