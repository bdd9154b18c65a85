import Dashboard.Container.Basic
import Dashboard.Host.Scripted
import Dashboard.Store.Recording
import Dashboard.Text.Uppercase

/-!
# A container with its store

A container over the scripted adapter and a recording store. The session plays the store's
subscription: states are delivered to the container until it has seen the newest one, including the
echo of what the container itself dispatched.
-/

namespace Dashboard

/-- A container, its store and the version of the state it was told last. -/
structure Session where
  store : RecordingStore
  container : Container Scripted
  delivered : Option Nat

namespace Session

/-- A container that has not been told anything yet. The known plugins are the registered ones
unless they are given. -/
def new (registry : Registry) (host : Scripted) (known : Option (List PluginId))
    (selection : Option PluginId) (flags : FeatureFlags) (settings : Settings) : Session where
  store := .ofSnapshot
    { activation := { known := known.getD registry.ids, active := none, selection := selection }
      flags := flags
      settings := settings }
  container := .new registry host "test"
  delivered := none

/-- A plugin that is always enabled and has no mount point, called by its identifier in capital
letters. -/
def plugin (id : String) : Descriptor where
  id := ⟨id⟩
  displayName := Text.uppercase id

/-- A session over plugins that are registered in order. The first that is registered twice is
refused. -/
def build (plugins : List Descriptor) (host : Scripted) (known : Option (List PluginId))
    (selection : Option PluginId) (flags : FeatureFlags) (settings : Settings) :
    Except PluginError Session :=
  (Registry.ofDescriptors plugins).map fun r => new r host known selection flags settings

/-- Replaces the container and lets the store hear what it said. -/
def update (s : Session) (step : Container Scripted × List Action) : Session :=
  { s with container := step.1, store := s.store.dispatchAll step.2 }

def withHost (s : Session) (host : Scripted) : Session :=
  { s with container := { s.container with host := host } }

/-- Delivers the state to the container, whether or not it was told before. -/
def observe (s : Session) (state : Snapshot) : Session := s.update (s.container.onStateChange state)

/-- Delivers states until the container has seen the newest one, at most `rounds` times. -/
def notifyRounds : Nat → Session → Session
  | 0, s => s
  | rounds + 1, s =>
    if s.delivered = some s.store.version then s
    else notifyRounds rounds
      ({ s with delivered := some s.store.version }.observe s.store.snapshot)

/-- Delivers states until the container has seen the newest one. The echo of a confirmation changes
nothing more, so two deliveries are enough. -/
def notify (s : Session) : Session := notifyRounds 2 s

/-- Applies an action for another part of the application, without delivering it. -/
def applyQuietly (s : Session) (a : Action) : Session × Bool :=
  let (store, changed) := s.store.apply a
  ({ s with store := store }, changed)

/-- Applies an action for another part of the application and delivers the result. -/
def apply (s : Session) (a : Action) : Session := (s.applyQuietly a).1.notify

/-- Takes in the next mount that has settled, without delivering what it changed. -/
def settleQuietly (s : Session) (order : Flights.Order) : Session × Container.Settling :=
  let (c, actions, settling) := s.container.settleNext order
  (s.update (c, actions), settling)

/-- Takes in the next mount that has settled and delivers what it changed. While all mounts wait,
nothing is delivered. -/
def settleNext (s : Session) (order : Flights.Order) : Session × Container.Settling :=
  match s.settleQuietly order with
  | (s, .waiting) => (s, .waiting)
  | (s, settling) => (s.notify, settling)

/-- Hands an outcome to the container as that of a given attempt: a failure with the given message,
or what the adapter makes at once of a mount outside the container. A mount that does not settle at
once is given up. -/
def settleDirectly (s : Session) (id : PluginId) (generation : Nat) (failure : Option String) :
    Session :=
  match failure with
  | some message => s.update (s.container.settled generation (.error (.of id message)))
  | none =>
    let (host, request) := s.container.host.mount
      { region := "test", plugin := id, mount := .none, generation := generation,
        handle := .detached id }
    let s := s.withHost host
    match request with
    | .ready result => s.update (s.container.settled generation result)
    | .pending ticket => s.withHost (s.container.host.cancel ticket)

/-- Puts a request of a plugin for its deactivation into the container's mailbox. -/
def sendDeactivation (s : Session) (id : PluginId) : Session × Bool :=
  let (mailbox, sent) := s.container.host.deactivate id s.container.mailbox
  ({ s with container := { s.container with mailbox := mailbox } }, sent)

/-- Handles the requests in the mailbox, and says how many there were. -/
def process (s : Session) : Session × Nat :=
  let (c, n) := s.container.processDeactivations
  ({ s with container := c }, n)

/-- Makes a plugin ask for its deactivation, and lets the container handle it. -/
def deactivate (s : Session) (id : PluginId) : Session × Bool :=
  let (s, sent) := s.sendDeactivation id
  (s.process.1.notify, sent)

/-- Hands a request for deactivation to the container, past the mailbox. -/
def deactivateDirectly (s : Session) (r : DeactivationRequest) : Session :=
  { s with container := s.container.onDeactivated r }

/-- Opens the oldest gate of a plugin, and says whether a mount was waiting there. -/
def openGate (s : Session) (id : PluginId) (failure : Option String) : Session × Bool :=
  match s.container.host.openGate id failure with
  | (host, some key) =>
    let s := s.withHost host
    ({ s with container := { s.container with flights := s.container.flights.wake key } }, true)
  | (host, none) => (s.withHost host, false)

def setBehavior (s : Session) (id : PluginId) (b : Behavior) : Session :=
  s.withHost (s.container.host.setBehavior id b)

def teardown (s : Session) (order : Flights.Order) : Session :=
  { s with container := s.container.teardown order }

def mountedId (s : Session) : Option PluginId := s.container.current.map (·.plugin)

end Session

end Dashboard
