import Dashboard.Container.Basic
import Dashboard.Host.Scripted
import Dashboard.Store.Memory
import Dashboard.Store.Recording

/-!
# The container's loop

The loop feeds the container from a store until it is cancelled or the store goes away, then tears
the container down. States of the store, settled mounts and requests for deactivation are handled
one at a time. The container confirms into the same store, or into one of its own that the loop
never sees.
-/

namespace Dashboard

structure Loop where
  feed : MemoryStore
  /-- The version of the feed that the loop saw last. -/
  seen : Nat
  /-- Whether the feed has gone away. -/
  closed : Bool
  cancelled : Bool
  container : Container Scripted
  /-- The store that the container confirms into, if it is not the feed. -/
  own : Option RecordingStore
  /-- The order in which the runtime takes mounts. -/
  order : Flights.Order
  /-- Whether the loop has ended. -/
  ended : Bool

namespace Loop

/-- Lets the container's store hear what the container said. -/
def update (l : Loop) (step : Container Scripted × List Action) : Loop :=
  match l.own with
  | some store => { l with container := step.1, own := some (store.dispatchAll step.2) }
  | none => { l with container := step.1, feed := l.feed.dispatchAll step.2 }

/-- Delivers the newest state of the feed. -/
def deliver (l : Loop) : Loop :=
  { l with seen := l.feed.version }.update (l.container.onStateChange l.feed.snapshot)

def finish (l : Loop) : Loop :=
  { l with container := l.container.teardown l.order, ended := true }

/-- Handles one event, and says whether there was one. Cancelling comes first, then the state of the
feed, settled mounts and requests for deactivation. -/
def step (l : Loop) : Loop × Bool :=
  if l.ended then (l, false)
  else if l.cancelled then (l.finish, true)
  else if l.feed.version != l.seen then (l.deliver, true)
  else if l.closed && l.own.isSome then (l.finish, true)
  else
    match l.container.settleNext l.order with
    | (c, actions, .settled) => (l.update (c, actions), true)
    | (c, _, _) =>
      match c.mailbox.queue with
      | r :: rest =>
        ({ l with container :=
          { c with mailbox := { c.mailbox with queue := rest } }.onDeactivated r }, true)
      | [] => ({ l with container := c }, false)

def run : Nat → Loop → Loop
  | 0, l => l
  | n + 1, l =>
    match l.step with
    | (l, true) => run n l
    | (l, false) => l

/-- Handles events until there are none. Every mount in flight and every request is handled once,
every settled mount may be confirmed, and the last confirmation is delivered once more. -/
def runUntilQuiet (l : Loop) : Loop :=
  run (2 * l.container.flights.size + l.container.mailbox.queue.length + 8) l

/-- Starts a loop: the current state of the feed is delivered first. -/
def start (registry : Registry) (host : Scripted) (initial : Snapshot) (ownStore : Bool)
    (order : Flights.Order) : Loop :=
  { feed := .ofSnapshot initial, seen := 0, closed := false, cancelled := false,
    container := .new registry host "main",
    own := if ownStore then some (.ofSnapshot initial) else none,
    order := order,
    ended := false : Loop }.deliver.runUntilQuiet

def withHost (l : Loop) (host : Scripted) : Loop :=
  { l with container := { l.container with host := host } }

/-- Runs actions through the feed, unless its handle was dropped. The loop sees only the state
after the last one. -/
def dispatch (l : Loop) (actions : List Action) : Loop :=
  if l.closed then l else { l with feed := l.feed.dispatchAll actions }.runUntilQuiet

/-- Drops the handle of the feed. -/
def close (l : Loop) : Loop := { l with closed := true }.runUntilQuiet

def cancel (l : Loop) : Loop := { l with cancelled := true }.runUntilQuiet

/-- Opens the oldest gate of a plugin, and says whether a mount was waiting there. -/
def openGate (l : Loop) (id : PluginId) (failure : Option String) : Loop × Bool :=
  match l.container.host.openGate id failure with
  | (host, some key) =>
    let l := l.withHost host
    ({ l with container := { l.container with
        flights := l.container.flights.wake key } }.runUntilQuiet, true)
  | (host, none) => ((l.withHost host).runUntilQuiet, false)

def setBehavior (l : Loop) (id : PluginId) (b : Behavior) : Loop :=
  (l.withHost (l.container.host.setBehavior id b)).runUntilQuiet

/-- Makes a plugin ask for its deactivation, and says whether the request was taken. -/
def sendDeactivation (l : Loop) (id : PluginId) : Loop × Bool :=
  let (mailbox, sent) := l.container.host.deactivate id l.container.mailbox
  ({ l with container := { l.container with mailbox := mailbox } }.runUntilQuiet, sent)

def activation (l : Loop) : Activation :=
  match l.own with
  | some store => store.snapshot.activation
  | none => l.feed.snapshot.activation

end Loop

end Dashboard
