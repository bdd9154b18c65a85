import Dashboard.Proofs.Container.Run
import Dashboard.Proofs.Plugin.Resolution

/-!
# What one event can do to a container

`Outcome` lists, with the conditions under which it happens, everything that an event can make of a
container, and `step_outcome` says that the list is complete. Every invariant of the container is
proved from this list; no proof about runs opens the operations themselves.
-/

namespace Dashboard

/-- The failure that an adapter answers to a mount with. -/
def MountRequest.failure? : MountRequest → Option MountError
  | .ready (.error e) => some e
  | _ => none

/-- The failure that a polled mount has settled with. -/
def Progress.failure? : Progress → Option MountError
  | .settled (.error e) => some e
  | _ => none

namespace Container

variable {H : Type} [Adapter H]

/-! ### The parts of an activation -/

/-- The adapter after the given instance, if any, is unmounted. -/
def release (h : H) : Option Instance → H
  | none => h
  | some i => (Adapter.unmount h i).1

theorem unmountCurrent_eq (c : Container H) :
    c.unmountCurrent = { c with host := release c.host c.current, current := none } := by
  unfold unmountCurrent
  cases hcurrent : c.current with
  | none => simp only [release, ← hcurrent]
  | some i => rfl

/-- Whether a state is news to the container. -/
def hears (c : Container H) (s : Snapshot) : Bool :=
  !(c.tornDown || c.observed.any (·.same (.ofSnapshot s)))

def heard (c : Container H) (s : Snapshot) : Container H :=
  { c with observed := some (.ofSnapshot s) }

/-- The container ready for a new attempt: nothing is showing, and no failure is remembered. -/
def vacated (c : Container H) : Container H :=
  { c with
    generation := c.generation + 1
    host := release c.host c.current
    current := none
    lastError := none }

/-- What the adapter is told when a plugin is to be mounted. -/
def mountContext (c : Container H) (d : Descriptor) : MountContext where
  region := c.region
  plugin := d.id
  mount := d.mount
  generation := c.generation
  handle := ⟨d.id, c.generation, true⟩

/-- The plugin that the delivery of a state makes the container mount. -/
def launch? (c : Container H) (s : Snapshot) : Option Descriptor :=
  if c.hears s && c.registry.target s != c.phase.plugin? then
    (c.registry.target s).bind c.registry.get?
  else none

def cleared (c : Container H) (s : Snapshot) : Container H := (c.heard s).vacated

/-- Whether the container is mounting a plugin and waits for the attempt of the given generation. -/
def Awaits (c : Container H) (generation : Nat) (id : PluginId) : Prop :=
  c.tornDown = false ∧ c.phase = .mounting id generation

/-- Whether a request for deactivation comes from the current attempt. -/
def accepts (c : Container H) (r : DeactivationRequest) : Bool :=
  !c.tornDown && c.phase.generation? == some r.generation

def deactivated (c : Container H) : Container H :=
  { c with
    generation := c.generation + 1
    host := release c.host c.current
    current := none
    phase := .idle }

/-- The container torn down. -/
def ended (c : Container H) (order : Flights.Order) : Container H :=
  { c with
    tornDown := true
    mailbox := c.mailbox.close
    generation := c.generation + 1
    host := release (drain c.host (order.handed c.flights)) c.current
    flights := .empty
    current := none
    phase := .idle }

/-! ### The operations, part by part -/

theorem settled_of_awaits_ok {c : Container H} {generation : Nat} {id : PluginId} {i : Instance}
    (h : c.Awaits generation id) :
    c.settled generation (.ok i) =
      ({ c with phase := .mounted id generation, current := some i }, [.activated id]) := by
  simp [settled, h.1, h.2]

theorem settled_of_awaits_error {c : Container H} {generation : Nat} {id : PluginId}
    {e : MountError} (h : c.Awaits generation id) :
    c.settled generation (.error e) = ({ c with phase := .idle, lastError := some e }, []) := by
  simp [settled, h.1, h.2]

theorem settled_of_not_awaits {c : Container H} {generation : Nat} (result : MountResult)
    (h : ∀ id, ¬ c.Awaits generation id) :
    c.settled generation result = (c.discard result, []) := by
  unfold settled
  split
  · rename_i id g hphase
    refine if_neg fun hcurrent => ?_
    simp only [Bool.and_eq_true, Bool.not_eq_true', beq_iff_eq] at hcurrent
    exact h id ⟨hcurrent.1, hcurrent.2 ▸ hphase⟩
  · rfl

theorem activate_eq (c : Container H) (desired : Option PluginId) :
    c.activate desired =
      match desired.bind c.registry.get? with
      | none => ({ c.vacated with phase := .idle }, [])
      | some d => c.vacated.startMount d := by
  simp only [activate, unmountCurrent_eq]
  rfl

theorem onStateChange_eq (c : Container H) (s : Snapshot) :
    c.onStateChange s =
      if c.hears s = false then (c, [])
      else if c.registry.target s = c.phase.plugin? then (c.heard s, [])
      else (c.heard s).activate (c.registry.target s) := by
  unfold onStateChange hears
  cases c.tornDown || c.observed.any (·.same (.ofSnapshot s)) with
  | true => rfl
  | false =>
    simp only [Bool.false_eq_true, if_false, Bool.not_false, reduceCtorEq, beq_iff_eq]
    rfl

theorem onDeactivated_eq (c : Container H) (r : DeactivationRequest) :
    c.onDeactivated r = if c.accepts r then c.deactivated else c := by
  have haccepts : c.accepts r = !(c.tornDown || c.phase.generation? != some r.generation) := by
    simp [accepts, bne]
  unfold onDeactivated
  rw [haccepts]
  cases c.tornDown || c.phase.generation? != some r.generation with
  | true => rfl
  | false => simp only [unmountCurrent_eq]; rfl

theorem teardown_eq (c : Container H) (order : Flights.Order) :
    c.teardown order = if c.tornDown then c else c.ended order := by
  simp only [teardown, unmountCurrent_eq]
  rfl

/-! ### All outcomes of an event -/

/-- Everything that an event can make of a container, and what the container then dispatches. -/
inductive Outcome (c : Container H) : Event H → Container H × List Action → Prop where
  /-- The state brings nothing new, or the container no longer listens. -/
  | unheard {s : Snapshot} (hheard : c.hears s = false) : Outcome c (.deliver s) (c, [])
  /-- The plugin that should be active is the one being mounted or shown. -/
  | unmoved {s : Snapshot} (hheard : c.hears s = true)
      (htarget : c.registry.target s = c.phase.plugin?) : Outcome c (.deliver s) (c.heard s, [])
  /-- No plugin should be active any more. -/
  | emptied {s : Snapshot} (hheard : c.hears s = true) (htarget : c.registry.target s = none)
      (hphase : c.phase.plugin? ≠ none) :
      Outcome c (.deliver s) ({ c.cleared s with phase := .idle }, [])
  | took {s : Snapshot} {d : Descriptor} {host : H} {i : Instance} (hlaunch : c.launch? s = some d)
      (htarget : c.registry.target s = some d.id)
      (hmount : Adapter.mount (c.cleared s).host ((c.cleared s).mountContext d) =
        (host, .ready (.ok i))) :
      Outcome c (.deliver s)
        ({ c.cleared s with
            host := host, phase := .mounted d.id (c.generation + 1), current := some i },
          [.activated d.id])
  | failed {s : Snapshot} {d : Descriptor} {host : H} {e : MountError}
      (hlaunch : c.launch? s = some d) (htarget : c.registry.target s = some d.id)
      (hmount : Adapter.mount (c.cleared s).host ((c.cleared s).mountContext d) =
        (host, .ready (.error e))) :
      Outcome c (.deliver s)
        ({ c.cleared s with host := host, phase := .idle, lastError := some e }, [])
  | launched {s : Snapshot} {d : Descriptor} {host : H} {t : Ticket}
      (hlaunch : c.launch? s = some d) (htarget : c.registry.target s = some d.id)
      (hmount : Adapter.mount (c.cleared s).host ((c.cleared s).mountContext d) =
        (host, .pending t)) :
      Outcome c (.deliver s)
        ({ c.cleared s with
            host := host, phase := .mounting d.id (c.generation + 1),
            flights := c.flights.push ⟨c.generation + 1, t⟩ }, [])
  /-- No such mount is in flight. -/
  | absent {m : InFlight} (hm : m ∉ c.flights.toList) : Outcome c (.look m) (c, [])
  | confirmed {m : InFlight} {host : H} {flights : Flights} {id : PluginId} {i : Instance}
      (hflights : c.flights.toList.Perm (m :: flights.toList)) (hawaits : c.Awaits m.generation id)
      (hpoll : Adapter.poll c.host m.ticket = (host, .settled (.ok i))) :
      Outcome c (.look m)
        ({ c with
            host := host, flights := flights, phase := .mounted id m.generation,
            current := some i }, [.activated id])
  | refused {m : InFlight} {host : H} {flights : Flights} {id : PluginId} {e : MountError}
      (hflights : c.flights.toList.Perm (m :: flights.toList)) (hawaits : c.Awaits m.generation id)
      (hpoll : Adapter.poll c.host m.ticket = (host, .settled (.error e))) :
      Outcome c (.look m)
        ({ c with host := host, flights := flights, phase := .idle, lastError := some e }, [])
  /-- A superseded attempt has settled. -/
  | stale {m : InFlight} {host : H} {flights : Flights} {result : MountResult}
      (hflights : c.flights.toList.Perm (m :: flights.toList))
      (hawaits : ∀ id, ¬ c.Awaits m.generation id)
      (hpoll : Adapter.poll c.host m.ticket = (host, .settled result)) :
      Outcome c (.look m) (({ c with host := host, flights := flights }).discard result, [])
  | unsettled {m : InFlight} {host : H} {flights : Flights} {progress : Progress}
      (hflights : c.flights.toList.Perm flights.toList)
      (hpoll : Adapter.poll c.host m.ticket = (host, progress))
      (hprogress : ∀ result, progress ≠ .settled result) :
      Outcome c (.look m) ({ c with host := host, flights := flights }, [])
  | woken {key : Nat} {flights : Flights} (hflights : c.flights.toList.Perm flights.toList) :
      Outcome c (.wake key) ({ c with flights := flights }, [])
  | adapter (change : H → H) : Outcome c (.adapter change) ({ c with host := change c.host }, [])
  | mailbox (m : Mailbox) : Outcome c (.mailbox m) ({ c with mailbox := m }, [])
  /-- The request does not come from the current attempt. -/
  | ignored {r : DeactivationRequest} (haccepts : c.accepts r = false) :
      Outcome c (.deactivate r) (c, [])
  | deactivated {r : DeactivationRequest} (haccepts : c.accepts r = true) :
      Outcome c (.deactivate r) (c.deactivated, [])
  | gone {order : Flights.Order} (hgone : c.tornDown = true) : Outcome c (.teardown order) (c, [])
  | ended {order : Flights.Order} (hgone : c.tornDown = false) :
      Outcome c (.teardown order) (c.ended order, [])

theorem startMount_eq (c : Container H) (d : Descriptor) :
    c.startMount d =
      match Adapter.mount c.host (c.mountContext d) with
      | (host, .ready result) =>
        { c with host := host, phase := .mounting d.id c.generation }.settled c.generation result
      | (host, .pending t) =>
        ({ c with
            host := host, phase := .mounting d.id c.generation,
            flights := c.flights.push ⟨c.generation, t⟩ }, []) := by
  unfold startMount mountContext
  rcases Adapter.mount c.host _ with ⟨host, request⟩
  cases request <;> rfl

omit [Adapter H] in
theorem launch?_eq_some {c : Container H} {s : Snapshot} {d : Descriptor}
    (hheard : c.hears s = true) (htarget : c.registry.target s ≠ c.phase.plugin?)
    (hd : (c.registry.target s).bind c.registry.get? = some d) : c.launch? s = some d := by
  simp [launch?, hheard, htarget, hd]

private theorem deliver_outcome (c : Container H) (s : Snapshot) :
    Outcome c (.deliver s) (c.onStateChange s) := by
  rw [onStateChange_eq]
  split
  · exact .unheard ‹_›
  · rename_i hunheard
    have hheard : c.hears s = true := by simpa using hunheard
    have htornDown : c.tornDown = false := by
      simp only [hears, Bool.not_eq_true', Bool.or_eq_false_iff] at hheard
      exact hheard.1
    split
    · exact .unmoved hheard ‹_›
    · rename_i hmoved
      rw [activate_eq]
      cases htarget : c.registry.target s with
      | none => exact .emptied hheard htarget (fun hphase => hmoved (htarget.trans hphase.symm))
      | some id =>
        obtain ⟨d, hd, rfl⟩ := Registry.exists_get?_of_target htarget
        have hlaunch : c.launch? s = some d := launch?_eq_some hheard hmoved (by simp [htarget, hd])
        have hbind : (some d.id).bind (c.heard s).registry.get? = some d := hd
        simp only [hbind, startMount_eq]
        change Outcome c (.deliver s)
          (match Adapter.mount (c.cleared s).host ((c.cleared s).mountContext d) with
            | (host, .ready result) =>
              { c.cleared s with
                host := host, phase := .mounting d.id (c.cleared s).generation }.settled
                (c.cleared s).generation result
            | (host, .pending t) =>
              ({ c.cleared s with
                  host := host, phase := .mounting d.id (c.cleared s).generation,
                  flights := (c.cleared s).flights.push ⟨(c.cleared s).generation, t⟩ }, []))
        split
        · rename_i host result hmount
          have hawaits : Awaits { c.cleared s with
              host := host, phase := .mounting d.id (c.cleared s).generation }
              (c.cleared s).generation d.id := ⟨htornDown, rfl⟩
          cases result with
          | ok i =>
            rw [settled_of_awaits_ok hawaits]
            exact .took hlaunch htarget hmount
          | error e =>
            rw [settled_of_awaits_error hawaits]
            exact .failed hlaunch htarget hmount
        · rename_i host t hmount
          exact .launched hlaunch htarget hmount

private theorem look_outcome (c : Container H) (m : InFlight) :
    Outcome c (.look m) (c.look m) := by
  unfold look
  split
  · rename_i hm
    have hremove := Flights.perm_remove hm
    split
    · rename_i host result hpoll
      by_cases hawaits : ∃ id, c.Awaits m.generation id
      · obtain ⟨id, hawaits⟩ := hawaits
        have hawaits' : Awaits { c with host := host, flights := c.flights.remove m }
          m.generation id := hawaits
        cases result with
        | ok i =>
          rw [settled_of_awaits_ok hawaits']
          exact .confirmed hremove hawaits hpoll
        | error e =>
          rw [settled_of_awaits_error hawaits']
          exact .refused hremove hawaits hpoll
      · have hstale : ∀ id, ¬ c.Awaits m.generation id := fun id h => hawaits ⟨id, h⟩
        have hstale' : ∀ id, ¬ Awaits { c with host := host, flights := c.flights.remove m }
          m.generation id := hstale
        rw [settled_of_not_awaits result hstale']
        exact .stale hremove hstale hpoll
    · rename_i host hpoll
      exact .unsettled (hremove.trans (Flights.perm_sleep _ m).symm) hpoll (by simp)
    · rename_i host hpoll
      exact .unsettled (hremove.trans (Flights.perm_push _ m).symm) hpoll (by simp)
  · exact .absent ‹_›

/-- Every event has one of the listed outcomes. -/
theorem step_outcome (c : Container H) (e : Event H) : Outcome c e (c.step e) := by
  cases e with
  | deliver s => exact deliver_outcome c s
  | look m => exact look_outcome c m
  | wake key => exact .woken (Flights.perm_wake c.flights key).symm
  | adapter change => exact .adapter change
  | mailbox m => exact .mailbox m
  | deactivate r =>
    simp only [step, onDeactivated_eq]
    split
    · exact .deactivated ‹_›
    · exact .ignored (by simpa using ‹¬ c.accepts r = true›)
  | teardown order =>
    simp only [step, teardown_eq]
    split
    · exact .gone ‹_›
    · exact .ended (by simpa using ‹¬ c.tornDown = true›)

/-! ### Failed attempts -/

/-- The plugin whose current attempt fails in an event, with the failure. -/
def failure? (c : Container H) : Event H → Option (PluginId × MountError)
  | .deliver s =>
    (c.launch? s).bind fun d =>
      ((Adapter.mount (c.cleared s).host ((c.cleared s).mountContext d)).2.failure?).map (d.id, ·)
  | .look m =>
    if m ∈ c.flights.toList ∧ c.tornDown = false ∧ c.phase.generation? = some m.generation then
      match c.phase with
      | .mounting id _ => ((Adapter.poll c.host m.ticket).2.failure?).map (id, ·)
      | _ => none
    else none
  | _ => none

theorem failure?_of_failed {c : Container H} {s : Snapshot} {d : Descriptor} {host : H}
    {e : MountError} (hlaunch : c.launch? s = some d)
    (hmount : Adapter.mount (c.cleared s).host ((c.cleared s).mountContext d) =
      (host, .ready (.error e))) : c.failure? (.deliver s) = some (d.id, e) := by
  simp [failure?, hlaunch, hmount, MountRequest.failure?]

theorem failure?_of_refused {c : Container H} {m : InFlight} {host : H} {id : PluginId}
    {e : MountError} (hm : m ∈ c.flights.toList) (hawaits : c.Awaits m.generation id)
    (hpoll : Adapter.poll c.host m.ticket = (host, .settled (.error e))) :
    c.failure? (.look m) = some (id, e) := by
  simp [failure?, hm, hawaits.1, hawaits.2, Phase.generation?, hpoll, Progress.failure?]

theorem failure?_look {c : Container H} {m : InFlight} {id : PluginId} {err : MountError}
    (hfailure : c.failure? (.look m) = some (id, err)) :
    m ∈ c.flights.toList ∧ c.Awaits m.generation id ∧
      (Adapter.poll c.host m.ticket).2.failure? = some err := by
  simp only [failure?] at hfailure
  split at hfailure
  · rename_i hcurrent
    obtain ⟨hm, hup, hgeneration⟩ := hcurrent
    split at hfailure
    · rename_i other g hphase
      obtain ⟨e, he, hsame⟩ := Option.map_eq_some_iff.1 hfailure
      obtain ⟨rfl, rfl⟩ := Prod.mk.inj hsame
      have hg : g = m.generation := by simpa [hphase, Phase.generation?] using hgeneration
      exact ⟨hm, ⟨hup, hg ▸ hphase⟩, he⟩
    · cases hfailure
  · cases hfailure

theorem failure?_deliver {c : Container H} {s : Snapshot} {id : PluginId} {err : MountError}
    (hfailure : c.failure? (.deliver s) = some (id, err)) :
    ∃ d, c.launch? s = some d ∧ d.id = id ∧
      (Adapter.mount (c.cleared s).host ((c.cleared s).mountContext d)).2.failure? = some err := by
  obtain ⟨d, hlaunch, hfailed⟩ := Option.bind_eq_some_iff.1 hfailure
  obtain ⟨e, he, hsame⟩ := Option.map_eq_some_iff.1 hfailed
  obtain ⟨rfl, rfl⟩ := Prod.mk.inj hsame
  exact ⟨d, hlaunch, rfl, he⟩

/-! ### What is dispatched -/

/-- The plugin that the container confirms in an event. -/
def confirms? (c : Container H) (e : Event H) : Option PluginId :=
  match (c.step e).2 with
  | [.activated id] => some id
  | _ => none

/-- In an event the container confirms one plugin at most, and dispatches nothing else. -/
theorem said_step (c : Container H) (e : Event H) :
    (c.step e).2 = (c.confirms? e).toList.map .activated := by
  have hout := step_outcome c e
  unfold confirms?
  generalize c.step e = after at hout
  cases hout <;> rfl

/-- The plugin that is confirmed is showing. -/
theorem phase_of_confirms? {c : Container H} {e : Event H} {id : PluginId}
    (h : c.confirms? e = some id) : ∃ g, (c.step e).1.phase = .mounted id g := by
  have hout := step_outcome c e
  unfold confirms? at h
  generalize c.step e = after at hout h
  cases hout with
  | took | confirmed => cases h; exact ⟨_, rfl⟩
  | _ => cases h

/-! ### What no event changes -/

@[simp] theorem step_registry (c : Container H) (e : Event H) :
    (c.step e).1.registry = c.registry := by
  have h := step_outcome c e
  generalize c.step e = after at h
  cases h with
  | stale => rename_i result _ _ _; cases result <;> rfl
  | _ => rfl

@[simp] theorem run_registry (c : Container H) (es : List (Event H)) :
    (c.run es).registry = c.registry := by
  induction es generalizing c with
  | nil => rfl
  | cons e es ih => rw [run_cons, ih, step_registry]

theorem step_observed (c : Container H) (e : Event H) (he : ∀ s, e ≠ .deliver s) :
    (c.step e).1.observed = c.observed := by
  have hout := step_outcome c e
  generalize c.step e = after at hout
  cases hout with
  | stale => rename_i result _ _ _; cases result <;> rfl
  | unheard | unmoved | emptied | took | failed | launched => exact absurd rfl (he _)
  | _ => rfl

theorem step_tornDown (c : Container H) (e : Event H) (he : ∀ order, e ≠ .teardown order) :
    (c.step e).1.tornDown = c.tornDown := by
  have hout := step_outcome c e
  generalize c.step e = after at hout
  cases hout with
  | stale => rename_i result _ _ _; cases result <;> rfl
  | ended => exact absurd rfl (he _)
  | _ => rfl

end Container

end Dashboard
