import Dashboard.Proofs.Container.Projection

/-!
# Operations of the owner

The owner of a container waits for mounts to settle and empties the mailbox by one call each,
however many events that makes. An operation is such a call or a single event, and every operation
is a run.
-/

namespace Dashboard

namespace Container

/-- What the owner of a container can do in one call, or what happens in between. -/
inductive Operation (H : Type) where
  | event (e : Event H)
  /-- The next mount to settle is waited for, while mounts are polled in some order. -/
  | settle (polls : List InFlight)
  /-- All requests in the mailbox are handled. -/
  | process

variable {H : Type} [Adapter H]

def perform (c : Container H) : Operation H → Container H
  | .event e => (c.step e).1
  | .settle polls => (c.settleBy polls).1
  | .process => c.processDeactivations.1

def performAll (c : Container H) (os : List (Operation H)) : Container H := os.foldl perform c

@[simp] theorem performAll_nil (c : Container H) : c.performAll [] = c := rfl

@[simp] theorem performAll_cons (c : Container H) (o : Operation H) (os : List (Operation H)) :
    c.performAll (o :: os) = (c.perform o).performAll os := rfl

/-! ### Operations over another adapter -/

variable {W : Type} [Adapter W] (p : Projection W H)

/-- The operation, as it happens over the upper adapter. -/
def Operation.lift : Operation H → Operation W
  | .event e => .event (e.lift p)
  | .settle polls => .settle polls
  | .process => .process

/-- Over the upper adapter too an operation is a run of the events below. -/
theorem perform_lift_eq_run (c : Container W) (o : Operation H) :
    ∃ es : List (Event H), c.perform (o.lift p) = c.run (es.map (.lift p)) := by
  cases o with
  | event e => exact ⟨[e], rfl⟩
  | settle polls =>
    obtain ⟨looks, hlooks, -⟩ := c.settleBy_eq_run polls
    refine ⟨looks.map .look, ?_⟩
    rw [List.map_map]
    exact hlooks
  | process =>
    refine ⟨.mailbox { c.mailbox with queue := [] } :: c.mailbox.queue.map .deactivate, ?_⟩
    rw [List.map_cons, List.map_map]
    exact c.processDeactivations_eq_run

theorem pollEach_project (w : W) (f : Flights) (polls : List InFlight) :
    f.pollEach (p.below w) polls = (p.below (f.pollEach w polls).1, (f.pollEach w polls).2) := by
  induction polls generalizing w f with
  | nil => rfl
  | cons m polls ih =>
    rw [Flights.pollEach, Flights.pollEach]
    by_cases hm : m ∈ f.queue
    · rcases hpoll : Adapter.poll w m.ticket with ⟨host, progress⟩
      have hbelow := p.poll w m.ticket
      rw [hpoll] at hbelow
      rw [if_pos hm, if_pos hm, hbelow]
      cases progress with
      | settled result => rfl
      | waiting => exact ih host ((f.remove m).sleep m)
      | yielded => exact ih host ((f.remove m).push m)
    · rw [if_neg hm, if_neg hm]
      exact ih w f

theorem settleBy_project (c : Container W) (polls : List InFlight) :
    (c.project p).settleBy polls = ((c.settleBy polls).1.project p, (c.settleBy polls).2) := by
  have hpolled : (c.project p).flights.pollEach (c.project p).host polls =
      (p.below (c.flights.pollEach c.host polls).1, (c.flights.pollEach c.host polls).2) :=
    pollEach_project p c.host c.flights polls
  unfold settleBy
  rw [hpolled]
  change (if c.flights.isEmpty then _ else _) = _
  split
  · rfl
  · rcases c.flights.pollEach c.host polls with ⟨host, flights, outcome⟩
    cases outcome with
    | none => rfl
    | some outcome =>
      have hsettled := settled_project p { c with host := host, flights := flights }
        outcome.1 outcome.2
      exact congrArg (fun answer => (answer.1, answer.2, Settling.settled)) hsettled

theorem processDeactivations_project (c : Container W) :
    (c.project p).processDeactivations.1 = c.processDeactivations.1.project p := by
  rw [processDeactivations_eq_run, processDeactivations_eq_run]
  have hrun := run_project p c
    (.mailbox { c.mailbox with queue := [] } :: c.mailbox.queue.map .deactivate)
  rw [List.map_cons, List.map_map] at hrun
  exact hrun.symm

theorem perform_project (c : Container W) (o : Operation H) :
    (c.perform (o.lift p)).project p = (c.project p).perform o := by
  cases o with
  | event e => exact (congrArg Prod.fst (step_project p c e)).symm
  | settle polls => exact (congrArg Prod.fst (settleBy_project p c polls)).symm
  | process => exact (processDeactivations_project p c).symm

theorem performAll_project (c : Container W) (os : List (Operation H)) :
    (c.performAll (os.map (.lift p))).project p = (c.project p).performAll os := by
  induction os generalizing c with
  | nil => rfl
  | cons o os ih => rw [List.map_cons, performAll_cons, performAll_cons, ih, perform_project]

end Container

end Dashboard
