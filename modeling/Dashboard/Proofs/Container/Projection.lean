import Dashboard.Proofs.Container.Outcome

/-!
# Adapters above adapters

An adapter may be built on another one: it hands every call on, and what it keeps besides does not
show in its answers. A container cannot tell the two apart. A run over the upper adapter, projected
to the lower one, is the run over the lower adapter.
-/

namespace Dashboard

/-- How the states of an adapter are read as those of another that answers alike. -/
structure Projection (W H : Type) [Adapter W] [Adapter H] where
  below : W → H
  /-- What happens below, as it is seen from above. -/
  lift : (H → H) → W → W
  below_lift (change : H → H) (w : W) : below (lift change w) = change (below w)
  mount (w : W) (ctx : MountContext) : Adapter.mount (below w) ctx =
    (below (Adapter.mount w ctx).1, (Adapter.mount w ctx).2)
  poll (w : W) (t : Ticket) : Adapter.poll (below w) t =
    (below (Adapter.poll w t).1, (Adapter.poll w t).2)
  cancel (w : W) (t : Ticket) : Adapter.cancel (below w) t = below (Adapter.cancel w t)
  unmount (w : W) (i : Instance) :
    (Adapter.unmount (below w) i).1 = below (Adapter.unmount w i).1

namespace Container

variable {W H : Type} [Adapter W] [Adapter H]

def project (p : Projection W H) (c : Container W) : Container H :=
  { c with host := p.below c.host }

/-- The event, as it happens over the upper adapter. -/
def Event.lift (p : Projection W H) : Event H → Event W
  | .deliver s => .deliver s
  | .look m => .look m
  | .wake key => .wake key
  | .adapter change => .adapter (p.lift change)
  | .mailbox m => .mailbox m
  | .deactivate r => .deactivate r
  | .teardown order => .teardown order

variable (p : Projection W H)

theorem release_project (w : W) (current : Option Instance) :
    release (p.below w) current = p.below (release w current) := by
  cases current with
  | none => rfl
  | some i => exact p.unmount w i

theorem drain_project (w : W) (ms : List InFlight) :
    drain (p.below w) ms = p.below (drain w ms) := by
  induction ms generalizing w with
  | nil => rfl
  | cons m ms ih =>
    rcases hpoll : Adapter.poll w m.ticket with ⟨host, progress⟩
    have hbelow := p.poll w m.ticket
    rw [hpoll] at hbelow
    simp only [drain, hbelow, hpoll]
    cases progress with
    | settled result =>
      cases result with
      | ok i => simp only [p.unmount, ih]
      | error e => exact ih host
    | waiting => simp only [p.cancel, ih]
    | yielded => simp only [p.cancel, ih]

theorem discard_project (c : Container W) (result : MountResult) :
    (c.project p).discard result = (c.discard result).project p := by
  cases result with
  | ok i => simp only [discard, project, p.unmount]
  | error e => rfl

theorem settled_project (c : Container W) (generation : Nat) (result : MountResult) :
    (c.project p).settled generation result =
      ((c.settled generation result).1.project p, (c.settled generation result).2) := by
  by_cases hawaits : ∃ id, c.Awaits generation id
  · obtain ⟨id, hawaits⟩ := hawaits
    have hawaits' : (c.project p).Awaits generation id := hawaits
    cases result with
    | ok i => rw [settled_of_awaits_ok hawaits, settled_of_awaits_ok hawaits']; rfl
    | error e => rw [settled_of_awaits_error hawaits, settled_of_awaits_error hawaits']; rfl
  · have hstale : ∀ id, ¬ c.Awaits generation id := fun id h => hawaits ⟨id, h⟩
    have hstale' : ∀ id, ¬ (c.project p).Awaits generation id := hstale
    rw [settled_of_not_awaits result hstale, settled_of_not_awaits result hstale',
      discard_project]

theorem startMount_project (c : Container W) (d : Descriptor) :
    (c.project p).startMount d = ((c.startMount d).1.project p, (c.startMount d).2) := by
  rcases hmount : Adapter.mount c.host (c.mountContext d) with ⟨host, request⟩
  have hbelow : Adapter.mount (c.project p).host ((c.project p).mountContext d) =
      (p.below host, request) := by
    have hanswer := p.mount c.host (c.mountContext d)
    rw [hmount] at hanswer
    exact hanswer
  rw [startMount_eq c, startMount_eq (c.project p), hmount, hbelow]
  cases request with
  | ready result =>
    exact settled_project p { c with host := host, phase := .mounting d.id c.generation }
      c.generation result
  | pending t => rfl

theorem activate_project (c : Container W) (desired : Option PluginId) :
    (c.project p).activate desired =
      ((c.activate desired).1.project p, (c.activate desired).2) := by
  have hregistry : (c.project p).registry = c.registry := rfl
  have hvacated : (c.project p).vacated = c.vacated.project p := by
    simp only [vacated, project, release_project]
  rw [activate_eq, activate_eq, hvacated, hregistry]
  cases desired.bind c.registry.get? with
  | none => rfl
  | some d => exact startMount_project p c.vacated d

theorem onStateChange_project (c : Container W) (s : Snapshot) :
    (c.project p).onStateChange s =
      ((c.onStateChange s).1.project p, (c.onStateChange s).2) := by
  rw [onStateChange_eq, onStateChange_eq]
  change (if c.hears s = false then _
    else if c.registry.target s = c.phase.plugin? then _ else _) = _
  split
  · rfl
  · split
    · rfl
    · exact activate_project p (c.heard s) (c.registry.target s)

theorem look_project (c : Container W) (m : InFlight) :
    (c.project p).look m = ((c.look m).1.project p, (c.look m).2) := by
  rcases hpoll : Adapter.poll c.host m.ticket with ⟨host, progress⟩
  have hbelow : Adapter.poll (c.project p).host m.ticket = (p.below host, progress) := by
    have hanswer := p.poll c.host m.ticket
    rw [hpoll] at hanswer
    exact hanswer
  unfold look
  rw [hpoll, hbelow]
  change (if m ∈ c.flights.toList then _ else _) = _
  split
  · cases progress with
    | settled result =>
      exact settled_project p { c with host := host, flights := c.flights.remove m }
        m.generation result
    | waiting => rfl
    | yielded => rfl
  · rfl

theorem teardown_project (c : Container W) (order : Flights.Order) :
    (c.project p).teardown order = (c.teardown order).project p := by
  rw [teardown_eq, teardown_eq]
  change (if c.tornDown then _ else _) = _
  split
  · rfl
  · simp only [ended, project, release_project, drain_project]

/-- What the upper adapter keeps for itself makes no difference to an event. -/
theorem step_project (c : Container W) (e : Event H) :
    (c.project p).step e = ((c.step (e.lift p)).1.project p, (c.step (e.lift p)).2) := by
  cases e with
  | deliver s => exact onStateChange_project p c s
  | look m => exact look_project p c m
  | adapter change =>
    simp only [step, Event.lift, project, p.below_lift]
  | deactivate r =>
    simp only [step, Event.lift, onDeactivated_eq]
    change ((if c.accepts r then _ else _), _) = _
    split
    · simp only [deactivated, project, release_project]
    · rfl
  | teardown order => exact congrArg (·, []) (teardown_project p c order)
  | _ => rfl

theorem run_project (c : Container W) (es : List (Event H)) :
    (c.run (es.map (Event.lift p))).project p = (c.project p).run es := by
  induction es generalizing c with
  | nil => rfl
  | cons e es ih => rw [List.map_cons, run_cons, run_cons, ih, step_project]

end Container

end Dashboard
