import Dashboard.Container.Flights
import Dashboard.Plugin.Resolver

/-!
# The plugins container

The container keeps the plugin that the resolver picks mounted, and no other. Every mount attempt
has a generation, and a new activation or a teardown raises the generation, so that a mount that
settles late is recognised as stale: its outcome is dropped, and an instance that attached anyway is
unmounted on arrival. What the container wants to tell the store it returns as actions.
-/

namespace Dashboard

/-- What the container's one place for a plugin is doing. -/
inductive Phase where
  | idle
  /-- A mount was requested and has not settled yet. -/
  | mounting (plugin : PluginId) (generation : Nat)
  /-- The plugin is attached and confirmed to the store. -/
  | mounted (plugin : PluginId) (generation : Nat)
  deriving DecidableEq, Repr, Inhabited

namespace Phase

def plugin? : Phase → Option PluginId
  | idle => none
  | mounting id _ => some id
  | mounted id _ => some id

/-- The attempt being made or made last. -/
def generation? : Phase → Option Nat
  | idle => none
  | mounting _ g => some g
  | mounted _ g => some g

/-- Whether nothing is mounted or being mounted. -/
def isIdle (p : Phase) : Bool := p == idle

end Phase

/-- The parts of the state that decide what is mounted. -/
structure Observed where
  known : List PluginId
  selection : Option PluginId
  flags : FeatureFlags
  settings : Settings

namespace Observed

/-- The deciding parts of a state. -/
def ofSnapshot (s : Snapshot) : Observed :=
  ⟨s.activation.known, s.activation.selection, s.flags, s.settings⟩

def same (a b : Observed) : Bool :=
  a.known == b.known && a.selection == b.selection && a.flags == b.flags
    && a.settings.same b.settings

end Observed

/-- The container and the adapter it mounts through. -/
structure Container (H : Type) where
  registry : Registry
  host : H
  /-- The region of the dashboard that plugins are mounted into. -/
  region : String
  phase : Phase
  /-- The instance that is showing. -/
  current : Option Instance
  /-- The number of the newest attempt, in 64 bits: fewer than 2 ^ 64 attempts are assumed. -/
  generation : Nat
  flights : Flights
  observed : Option Observed
  /-- Why the last attempt failed, until the next activation. -/
  lastError : Option MountError
  mailbox : Mailbox
  tornDown : Bool

namespace Container

variable {H : Type} [Adapter H]

/-- A container that has not seen any state yet. -/
def new (registry : Registry) (host : H) (region : String) : Container H where
  registry := registry
  host := host
  region := region
  phase := .idle
  current := none
  generation := 0
  flights := .empty
  observed := none
  lastError := none
  mailbox := .empty
  tornDown := false

def unmountCurrent (c : Container H) : Container H :=
  match c.current with
  | none => c
  | some i => { c with host := (Adapter.unmount c.host i).1, current := none }

/-- Drops the outcome of a stale attempt; what attached is unmounted at once. -/
def discard (c : Container H) : MountResult → Container H
  | .ok i => { c with host := (Adapter.unmount c.host i).1 }
  | .error _ => c

/-- Takes in the outcome of the attempt of the given generation. -/
def settled (c : Container H) (generation : Nat) (result : MountResult) :
    Container H × List Action :=
  match c.phase with
  | .mounting id g =>
    if !c.tornDown && g == generation then
      match result with
      | .ok i => ({ c with phase := .mounted id g, current := some i }, [.activated id])
      | .error e => ({ c with phase := .idle, lastError := some e }, [])
    else (c.discard result, [])
  | _ => (c.discard result, [])

def startMount (c : Container H) (d : Descriptor) : Container H × List Action :=
  let (host, request) := Adapter.mount c.host
    { region := c.region, plugin := d.id, mount := d.mount, generation := c.generation,
      handle := ⟨d.id, c.generation, true⟩ }
  let c := { c with host := host, phase := .mounting d.id c.generation }
  match request with
  | .ready result => c.settled c.generation result
  | .pending ticket => ({ c with flights := c.flights.push ⟨c.generation, ticket⟩ }, [])

/-- Replaces whatever is mounted or being mounted by `desired`. -/
def activate (c : Container H) (desired : Option PluginId) : Container H × List Action :=
  let c := { ({ c with generation := c.generation + 1 }).unmountCurrent with lastError := none }
  match desired.bind c.registry.get? with
  | none => ({ c with phase := .idle }, [])
  | some d => c.startMount d

/-- Reacts to a state of the store. Nothing happens unless a deciding part changed and the resolver
picks another plugin than the one being mounted or shown. -/
def onStateChange (c : Container H) (s : Snapshot) : Container H × List Action :=
  if c.tornDown || c.observed.any (·.same (.ofSnapshot s)) then (c, [])
  else
    let c := { c with observed := some (.ofSnapshot s) }
    let desired := c.registry.target s
    if desired == c.phase.plugin? then (c, []) else c.activate desired

/-- Handles a plugin's request to be torn down. Requests of other attempts than the current one are
ignored. The container stays idle until a deciding part of the state changes. -/
def onDeactivated (c : Container H) (r : DeactivationRequest) : Container H :=
  if c.tornDown || c.phase.generation? != some r.generation then c
  else { ({ c with generation := c.generation + 1 }).unmountCurrent with phase := .idle }

/-- Handles all requests in the mailbox, and says how many there were. -/
def processDeactivations (c : Container H) : Container H × Nat :=
  let requests := c.mailbox.queue
  (requests.foldl onDeactivated { c with mailbox := { c.mailbox with queue := [] } },
    requests.length)

/-- What came of waiting for the next mount to settle. -/
inductive Settling where
  | settled
  | nothing
  /-- Mounts are in flight, and none of them has settled yet. -/
  | waiting
  deriving DecidableEq, Repr

/-- Waits for the next mount to settle, while mounts are polled in the given order, and takes in its
outcome. -/
def settleBy (c : Container H) (polls : List InFlight) : Container H × List Action × Settling :=
  if c.flights.isEmpty then (c, [], .nothing)
  else
    match c.flights.pollEach c.host polls with
    | (host, flights, some (generation, result)) =>
      let (c, actions) := { c with host := host, flights := flights }.settled generation result
      (c, actions, .settled)
    | (host, flights, none) => ({ c with host := host, flights := flights }, [], .waiting)

def settleNext (c : Container H) (order : Flights.Order) : Container H × List Action × Settling :=
  c.settleBy (order.polls c.flights)

/-- Ends mounts in flight: one that has settled by now is unmounted on arrival, any other is given
up. -/
def drain (host : H) : List InFlight → H
  | [] => host
  | m :: rest =>
    match Adapter.poll host m.ticket with
    | (host, .settled (.ok i)) => drain (Adapter.unmount host i).1 rest
    | (host, .settled (.error _)) => drain host rest
    | (host, _) => drain (Adapter.cancel host m.ticket) rest

/-- Ends all mounts in flight, unmounts what is showing and stops listening, once and for all. -/
def teardown (c : Container H) (order : Flights.Order) : Container H :=
  if c.tornDown then c
  else
    let c := { c with
      tornDown := true
      mailbox := c.mailbox.close
      generation := c.generation + 1
      host := drain c.host (order.handed c.flights)
      flights := .empty }
    { c.unmountCurrent with phase := .idle }

/-- Lets the store's state settle: delivers it and takes in what settles, over and over, for at most
the given number of rounds and no longer than mounts settle. What the container says goes to the
store before the next delivery. -/
def driveRounds {S : Type} (order : Flights.Order) (snapshot : S → Snapshot)
    (dispatch : S → List Action → S) : Nat → Container H → S → Container H × S
  | 0, c, store => (c, store)
  | rounds + 1, c, store =>
    let (c, delivered) := c.onStateChange (snapshot store)
    let store := dispatch store delivered
    match c.settleNext order with
    | (c, confirmed, .settled) =>
      driveRounds order snapshot dispatch rounds c (dispatch store confirmed)
    | (c, confirmed, _) => (c, dispatch store confirmed)

end Container

end Dashboard
