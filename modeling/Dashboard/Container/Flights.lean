import Dashboard.Host.Adapter

/-!
# Mounts in flight

The mounts that have not settled, with the attempt each belongs to. Some are queued to be polled;
the others sleep until something wakes them. In which order the queued ones are polled while one is
waited for, and in which order all of them are handed out at the end, is the affair of the runtime,
so it is a parameter.
-/

namespace Dashboard

/-- A mount in flight and the attempt it belongs to. -/
structure InFlight where
  generation : Nat
  ticket : Ticket
  deriving DecidableEq, Repr

/-- All mounts in flight. -/
structure Flights where
  /-- The mounts to be polled, in the order in which they were started or woken. -/
  queue : List InFlight
  /-- The mounts that were polled and wait for something else. -/
  asleep : List InFlight
  deriving DecidableEq, Inhabited

namespace Flights

def empty : Flights := ⟨[], []⟩

/-- Every mount in flight. -/
def toList (f : Flights) : List InFlight := f.queue ++ f.asleep

def size (f : Flights) : Nat := f.toList.length

def isEmpty (f : Flights) : Bool := f.toList.isEmpty

/-- Queues a mount behind the ones already queued. -/
def push (f : Flights) (m : InFlight) : Flights := { f with queue := f.queue ++ [m] }

def sleep (f : Flights) (m : InFlight) : Flights := { f with asleep := f.asleep ++ [m] }

/-- Takes a mount out, wherever it is. -/
def remove (f : Flights) (m : InFlight) : Flights :=
  if m ∈ f.queue then { f with queue := f.queue.erase m }
  else { f with asleep := f.asleep.erase m }

/-- Wakes the mount with a given key, if it sleeps. -/
def wake (f : Flights) (key : Nat) : Flights :=
  match f.asleep.find? (·.ticket.key == key) with
  | some m => ⟨f.queue ++ [m], f.asleep.erase m⟩
  | none => f

variable {H : Type} [Adapter H]

/-- Polls queued mounts one after another, up to the first that has settled. A mount that yields is
queued again, one that waits goes to sleep, and one that is not queued is passed over. -/
def pollEach (host : H) (f : Flights) : List InFlight → H × Flights × Option (Nat × MountResult)
  | [] => (host, f, none)
  | m :: polls =>
    if m ∈ f.queue then
      match Adapter.poll host m.ticket with
      | (host, .settled result) => (host, f.remove m, some (m.generation, result))
      | (host, .waiting) => pollEach host ((f.remove m).sleep m) polls
      | (host, .yielded) => pollEach host ((f.remove m).push m) polls
    else pollEach host f polls

/-- The order in which a runtime takes mounts. -/
structure Order where
  /-- The polls while the next mount to settle is waited for. A mount yields at most once, so each
  is polled twice. -/
  polls : Flights → List InFlight
  /-- The mounts as they are handed out at the end. -/
  handed : Flights → List InFlight
  polls_perm : ∀ f, (polls f).Perm (f.toList ++ f.toList)
  handed_perm : ∀ f, (handed f).Perm f.toList

/-- The order of a runtime that takes mounts as they are queued. -/
def Order.oldestFirst : Order where
  polls f := f.toList ++ f.toList
  handed f := f.toList
  polls_perm _ := .refl _
  handed_perm _ := .refl _

/-- The order of a runtime that takes the last mount first, once each has had its turn. -/
def Order.newestFirst : Order where
  polls f := f.toList ++ f.toList.reverse
  handed f := f.toList.reverse
  polls_perm f := f.toList.reverse_perm.append_left f.toList
  handed_perm f := f.toList.reverse_perm

end Flights

end Dashboard
