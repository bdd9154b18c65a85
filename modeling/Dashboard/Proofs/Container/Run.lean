import Dashboard.Container.Basic

/-!
# Runs of a container

Everything that can happen to a container between two operations of its owner is an event: a state
of the store is delivered, a mount in flight is polled, a plugin asks for its deactivation, the
container is torn down, or something changes outside it. Mounts may be polled in any order, so a run
is any list of events at all; an event that does not apply changes nothing. The two operations that
handle several things at once, waiting for the next mount to settle and emptying the mailbox, are
runs themselves.
-/

namespace Dashboard

namespace Flights

theorem perm_remove {f : Flights} {m : InFlight} (hm : m ∈ f.toList) :
    f.toList.Perm (m :: (f.remove m).toList) := by
  unfold remove toList
  split
  · rename_i hqueue
    exact (List.perm_cons_erase hqueue).append_right f.asleep
  · rename_i hqueue
    have hasleep : m ∈ f.asleep := (List.mem_append.1 hm).resolve_left hqueue
    exact ((List.perm_cons_erase hasleep).append_left f.queue).trans List.perm_middle

theorem mem_iff_of_perm {ms ns : List InFlight} {m : InFlight} (h : ms.Perm (m :: ns)) :
    ∀ n, n ≠ m → (n ∈ ns ↔ n ∈ ms) := by
  intro n hn
  rw [h.mem_iff, List.mem_cons]
  exact ⟨.inr, fun hmem => hmem.resolve_left hn⟩

theorem perm_push (f : Flights) (m : InFlight) : (f.push m).toList.Perm (m :: f.toList) := by
  simp only [push, toList, List.append_assoc, List.singleton_append]
  exact List.perm_middle

theorem perm_sleep (f : Flights) (m : InFlight) : (f.sleep m).toList.Perm (m :: f.toList) := by
  simp only [sleep, toList, ← List.append_assoc]
  exact List.perm_append_singleton m _

theorem perm_wake (f : Flights) (key : Nat) : (f.wake key).toList.Perm f.toList := by
  unfold wake
  split
  · rename_i m hfind
    have hasleep : m ∈ f.asleep := List.mem_of_find?_eq_some hfind
    simp only [toList, List.append_assoc, List.singleton_append]
    exact (List.perm_cons_erase hasleep).symm.append_left f.queue
  · exact List.Perm.refl _

end Flights

namespace Container

/-- What can happen to a container. -/
inductive Event (H : Type) where
  | deliver (s : Snapshot)
  /-- A mount in flight is polled, and its outcome is taken in if it has settled. -/
  | look (m : InFlight)
  | wake (key : Nat)
  /-- Something happens at the adapter. -/
  | adapter (change : H → H)
  /-- Requests are put into the mailbox or taken out of it. -/
  | mailbox (m : Mailbox)
  | deactivate (r : DeactivationRequest)
  | teardown (order : Flights.Order)

variable {H : Type} [Adapter H]

/-- Polls a mount in flight once, and takes in its outcome if it has settled. -/
def look (c : Container H) (m : InFlight) : Container H × List Action :=
  if m ∈ c.flights.toList then
    match Adapter.poll c.host m.ticket with
    | (host, .settled result) =>
      { c with host := host, flights := c.flights.remove m }.settled m.generation result
    | (host, .waiting) => ({ c with host := host, flights := (c.flights.remove m).sleep m }, [])
    | (host, .yielded) => ({ c with host := host, flights := (c.flights.remove m).push m }, [])
  else (c, [])

/-- What an event does to a container, and what the container dispatches. -/
def step (c : Container H) : Event H → Container H × List Action
  | .deliver s => c.onStateChange s
  | .look m => c.look m
  | .wake key => ({ c with flights := c.flights.wake key }, [])
  | .adapter change => ({ c with host := change c.host }, [])
  | .mailbox m => ({ c with mailbox := m }, [])
  | .deactivate r => (c.onDeactivated r, [])
  | .teardown order => (c.teardown order, [])

/-- The container after some events. -/
def run (c : Container H) (es : List (Event H)) : Container H :=
  es.foldl (fun c e => (c.step e).1) c

def said (c : Container H) : List (Event H) → List Action
  | [] => []
  | e :: es => (c.step e).2 ++ (c.step e).1.said es

@[simp] theorem run_nil (c : Container H) : c.run [] = c := rfl

@[simp] theorem run_cons (c : Container H) (e : Event H) (es : List (Event H)) :
    c.run (e :: es) = (c.step e).1.run es := rfl

theorem look_of_not_mem {c : Container H} {m : InFlight} (hm : m ∉ c.flights.toList) :
    c.step (.look m) = (c, []) := if_neg hm

theorem look_of_mem {c : Container H} {m : InFlight} (hm : m ∈ c.flights.toList) :
    c.step (.look m) =
      match Adapter.poll c.host m.ticket with
      | (host, .settled result) =>
        { c with host := host, flights := c.flights.remove m }.settled m.generation result
      | (host, .waiting) => ({ c with host := host, flights := (c.flights.remove m).sleep m }, [])
      | (host, .yielded) => ({ c with host := host, flights := (c.flights.remove m).push m }, []) :=
  if_pos hm

/-! ### Operations that are runs -/

/-- Polling queued mounts up to the first that has settled is looking at those mounts one after
another. -/
theorem pollEach_eq_run (c : Container H) (polls : List InFlight) :
    ∃ looks : List InFlight,
      match c.flights.pollEach c.host polls with
      | (host, f, some (generation, result)) =>
        c.run (looks.map .look) =
            ({ c with host := host, flights := f }.settled generation result).1 ∧
          c.said (looks.map .look) =
            ({ c with host := host, flights := f }.settled generation result).2
      | (host, f, none) =>
        c.run (looks.map .look) = { c with host := host, flights := f } ∧
          c.said (looks.map .look) = [] := by
  induction polls generalizing c with
  | nil => exact ⟨[], rfl, rfl⟩
  | cons m polls ih =>
    rw [Flights.pollEach]
    by_cases hm : m ∈ c.flights.queue
    · rw [if_pos hm]
      have hlook := look_of_mem (List.mem_append_left c.flights.asleep hm)
      generalize Adapter.poll c.host m.ticket = answer at hlook
      obtain ⟨host, progress⟩ := answer
      cases progress with
      | settled result =>
        refine ⟨[m], ?_⟩
        simp only [List.map_cons, List.map_nil, run_cons, run_nil, said, hlook, List.append_nil,
          and_self]
      | waiting =>
        obtain ⟨looks, h⟩ := ih { c with host := host, flights := (c.flights.remove m).sleep m }
        refine ⟨m :: looks, ?_⟩
        simpa only [List.map_cons, run_cons, said, hlook, List.nil_append] using h
      | yielded =>
        obtain ⟨looks, h⟩ := ih { c with host := host, flights := (c.flights.remove m).push m }
        refine ⟨m :: looks, ?_⟩
        simpa only [List.map_cons, run_cons, said, hlook, List.nil_append] using h
    · rw [if_neg hm]
      exact ih c

theorem run_append (c : Container H) (es fs : List (Event H)) :
    c.run (es ++ fs) = (c.run es).run fs := by
  simp [run]

/-- Waiting for the next mount to settle is a run, in whatever order the mounts are polled. -/
theorem settleBy_eq_run (c : Container H) (polls : List InFlight) :
    ∃ looks : List InFlight, (c.settleBy polls).1 = c.run (looks.map .look) ∧
      (c.settleBy polls).2.1 = c.said (looks.map .look) := by
  unfold settleBy
  split
  · exact ⟨[], rfl, rfl⟩
  · obtain ⟨looks, h⟩ := c.pollEach_eq_run polls
    refine ⟨looks, ?_⟩
    generalize c.flights.pollEach c.host polls = answer at h
    obtain ⟨host, f, settled⟩ := answer
    cases settled <;> exact ⟨h.1.symm, h.2.symm⟩

/-- Emptying the mailbox is a run: its requests are handled in turn. -/
theorem processDeactivations_eq_run (c : Container H) :
    c.processDeactivations.1 =
      c.run (.mailbox { c.mailbox with queue := [] } :: c.mailbox.queue.map .deactivate) := by
  simp [processDeactivations, run, step, List.foldl_map]

end Container

end Dashboard
