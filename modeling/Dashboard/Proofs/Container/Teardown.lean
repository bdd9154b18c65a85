import Dashboard.Proofs.Container.Confirmations
import Dashboard.Proofs.Container.Tickets

/-!
# Teardown

A teardown hands in the mounts in flight one by one, in any order. The ones that have finished are
detached at once, the others are given up; then the plugin that is showing is unmounted, and nothing
is dispatched in all this. A container that was torn down is past everything: whatever is still done
to it reaches its adapter and its mailbox at most, and the only thing that the adapter hears from it
is that instances which came too late are to be unmounted.
-/

namespace Dashboard

namespace Container

variable {H : Type}

/-- The container listens to nothing, shows nothing and waits for nothing. -/
structure Gone (c : Container H) : Prop where
  tornDown : c.tornDown = true
  phase : c.phase = .idle
  current : c.current = none
  flights : c.flights = .empty

/-- What a call puts into the mailbox. -/
def Call.onMailbox (m : Mailbox) : Call H → Mailbox
  | .event (.mailbox m) => m
  | _ => m

variable [Adapter H]

/-! ### Handing in -/

/-- Polls mounts in flight once each and takes in the outcomes of those that have settled; the
others are given up. -/
def handIn (c : Container H) : List InFlight → Container H × List Action
  | [] => (c, [])
  | m :: ms =>
    match Adapter.poll c.host m.ticket with
    | (host, .settled result) =>
      let (c, first) := { c with host := host }.settled m.generation result
      let (c, later) := c.handIn ms
      (c, first ++ later)
    | (host, _) => { c with host := Adapter.cancel host m.ticket }.handIn ms

/-- The container as it stops listening, and what it dispatches while its mounts in flight are
handed in and its plugin is unmounted. -/
def closed (c : Container H) (order : Flights.Order) : Container H × List Action :=
  let (d, said) :=
    { c with
      tornDown := true
      mailbox := c.mailbox.close
      generation := c.generation + 1
      flights := .empty }.handIn (order.handed c.flights)
  ({ d.unmountCurrent with phase := .idle }, said)

/-- To a container that was torn down every outcome is stale. -/
theorem handIn_of_tornDown {c : Container H} (hgone : c.tornDown = true) (ms : List InFlight) :
    c.handIn ms = ({ c with host := drain c.host ms }, []) := by
  induction ms generalizing c with
  | nil => rfl
  | cons m ms ih =>
    rcases hpoll : Adapter.poll c.host m.ticket with ⟨host, progress⟩
    have hrest (host : H) :
        handIn { c with host := host } ms = ({ c with host := drain host ms }, []) := ih hgone
    simp only [handIn, drain, hpoll]
    cases progress with
    | settled result =>
      have hstale (id : PluginId) : ¬ Awaits { c with host := host } m.generation id := by
        intro hawaits
        cases hgone.symm.trans hawaits.1
      have hsettled := settled_of_not_awaits result hstale
      cases result <;> simp only [hsettled, discard, hrest, List.append_nil]
    | waiting => exact hrest _
    | yielded => exact hrest _

theorem closed_eq {c : Container H} (hup : c.tornDown = false) (order : Flights.Order) :
    c.closed order = (c.teardown order, []) := by
  rw [closed, handIn_of_tornDown rfl, teardown_eq, hup]
  simp only [unmountCurrent_eq]
  rfl

/-! ### Torn down -/

theorem Coherent.gone_teardown {c : Container H} (h : c.Coherent) (order : Flights.Order) :
    (c.teardown order).Gone := by
  rw [teardown_eq]
  cases hgone : c.tornDown with
  | false => exact ⟨rfl, rfl, rfl, rfl⟩
  | true =>
    obtain ⟨hphase, hflights⟩ := h.rested hgone
    obtain ⟨hqueue, hasleep⟩ := List.append_eq_nil_iff.1 hflights
    have hempty : c.flights = .empty := by
      rcases hc : c.flights with ⟨queue, asleep⟩
      rw [hc] at hqueue hasleep
      rw [show queue = [] from hqueue, show asleep = [] from hasleep]
      rfl
    exact ⟨hgone, hphase, h.current_eq_none (by rw [hphase]; rfl), hempty⟩

/-- What a call still does to the adapter of a container that was torn down. -/
def Call.onHost (h : H) : Call H → H
  | .event (.adapter change) => change h
  | .settle _ (.ok i) => (Adapter.unmount h i).1
  | _ => h

def calls (c : Container H) (xs : List (Call H)) : Container H :=
  xs.foldl (fun c x => (c.call x).1) c

/-- What is dispatched in some calls. -/
def answers (c : Container H) : List (Call H) → List Action
  | [] => []
  | x :: xs => (c.call x).2 ++ (c.call x).1.answers xs

theorem Gone.call {c : Container H} (h : c.Gone) (x : Call H) :
    c.call x =
      ({ c with host := x.onHost c.host, mailbox := x.onMailbox c.mailbox }, []) := by
  have hstale (generation : Nat) (id : PluginId) : ¬ c.Awaits generation id := by
    intro hawaits
    cases h.tornDown.symm.trans hawaits.1
  cases x with
  | settle generation result =>
    rw [Container.call, settled_of_not_awaits result (hstale generation)]
    cases result <;> rfl
  | event e =>
    cases e with
    | deliver s =>
      have hunheard : c.hears s = false := by rw [hears, h.tornDown]; rfl
      simp only [Container.call, step, onStateChange_eq, hunheard, if_true]
      rfl
    | look m =>
      have hm : m ∉ c.flights.toList := by
        rw [h.flights]
        exact List.not_mem_nil
      simp only [Container.call, step, look, hm, if_false]
      rfl
    | wake key =>
      have hwake : c.flights.wake key = c.flights := by rw [h.flights]; rfl
      simp only [Container.call, step, hwake]
      rfl
    | adapter change => rfl
    | mailbox m => rfl
    | deactivate r =>
      have hignored : c.accepts r = false := by rw [accepts, h.tornDown]; rfl
      simp only [Container.call, step, onDeactivated_eq, hignored]
      rfl
    | teardown order =>
      have hteardown : c.teardown order = c := by rw [teardown_eq, if_pos h.tornDown]
      simp only [Container.call, step, hteardown]
      rfl

theorem Gone.calls {c : Container H} (h : c.Gone) (xs : List (Call H)) :
    c.calls xs = { c with
        host := xs.foldl Call.onHost c.host
        mailbox := xs.foldl Call.onMailbox c.mailbox } ∧ c.answers xs = [] := by
  induction xs generalizing c with
  | nil => exact ⟨rfl, rfl⟩
  | cons x xs ih =>
    have hcall := h.call x
    have hrest : Gone { c with host := x.onHost c.host, mailbox := x.onMailbox c.mailbox } :=
      ⟨h.tornDown, h.phase, h.current, h.flights⟩
    obtain ⟨hcalls, hanswers⟩ := ih hrest
    constructor
    · change ((c.call x).1.calls xs) = _
      rw [hcall]
      exact hcalls
    · rw [answers, hcall]
      exact hanswers

/-! ### The adapter is not asked to mount any more -/

/-- The call, as it happens over the upper adapter. -/
def Call.lift {W : Type} [Adapter W] (p : Projection W H) : Call H → Call W
  | .event e => .event (e.lift p)
  | .settle generation result => .settle generation result

theorem call_project {W : Type} [Adapter W] (p : Projection W H) (c : Container W) (x : Call H) :
    (c.project p).call x = ((c.call (x.lift p)).1.project p, (c.call (x.lift p)).2) := by
  cases x with
  | event e => exact step_project p c e
  | settle generation result => exact settled_project p c generation result

theorem calls_project {W : Type} [Adapter W] (p : Projection W H) (c : Container W)
    (xs : List (Call H)) :
    (c.calls (xs.map (.lift p))).project p = (c.project p).calls xs := by
  induction xs generalizing c with
  | nil => rfl
  | cons x xs ih =>
    have hfirst : (c.call (x.lift p)).1.project p = ((c.project p).call x).1 := by
      rw [call_project]
    change ((c.call (x.lift p)).1.calls (xs.map (.lift p))).project p =
      ((c.project p).call x).1.calls xs
    rw [ih, hfirst]

/-- Whatever is done to the container, also below the notes, the adapter hears no `mount` from
it. -/
def NeverMounts (c : Container (Watched H)) : Prop :=
  ∀ late : List (Call H),
    let after := c.calls (late.map (.lift Watched.projection))
    after.project Watched.projection = (c.project Watched.projection).calls late ∧
      after.host.calls = c.host.calls

theorem Gone.neverMounts {c : Container (Watched H)} (h : c.Gone) : c.NeverMounts := by
  intro late after
  have hnote (w : Watched H) (x : Call H) :
      ((x.lift Watched.projection).onHost w).calls = w.calls := by
    cases x with
    | event e => cases e <;> rfl
    | settle generation result => cases result <;> rfl
  have hnotes (w : Watched H) :
      ((late.map (.lift Watched.projection)).foldl Call.onHost w).calls = w.calls := by
    induction late generalizing w with
    | nil => rfl
    | cons x late ih => rw [List.map_cons, List.foldl_cons, ih, hnote]
  refine ⟨calls_project Watched.projection c late, ?_⟩
  rw [show after = _ from (h.calls _).1]
  exact hnotes c.host

/-! ### What a teardown leaves -/

/-- What a teardown makes of a container: the mounts that have finished are detached, each once, in
the order in which they are handed out and before the plugin that was showing, and the others attach
nothing. -/
structure TearsDown (c : Container H) (order : Flights.Order) (d : Container H) : Prop where
  gone : d.Gone
  handedIn : c.tornDown = false → c.closed order = (d, [])
  attached : (Adapter.stage d.host).attached = []
  mounts : (Adapter.stage d.host).mounts = (Adapter.stage c.host).mounts
  attachments : (Adapter.stage d.host).attachments =
    (Adapter.stage c.host).attachments ++ arrivals c.host (order.handed c.flights)
  detachments : (Adapter.stage d.host).detachments =
    (Adapter.stage c.host).detachments ++ arrivals c.host (order.handed c.flights) ++
      c.phase.shown?.toList

/-- Nothing that is done to the container changes it any more, and a unit that is handed in is
detached. -/
structure Final (d : Container H) : Prop where
  rests : ∀ late : List (Call H), d.calls late = { d with
    host := late.foldl Call.onHost d.host
    mailbox := late.foldl Call.onMailbox d.mailbox }
  silent : ∀ late : List (Call H), d.answers late = []
  detaches : ∀ (late : List (Call H)) (generation : Nat) (i : Instance), i.live = true →
    i.plugin ∈ (Adapter.stage (d.calls late).host).attached →
      Adapter.stage (d.calls (late ++ [.settle generation (.ok i)])).host =
        (Adapter.stage (d.calls late).host).detach i.plugin

theorem Gone.final [LawfulAdapter H] {d : Container H} (h : d.Gone) : d.Final where
  rests late := (h.calls late).1
  silent late := (h.calls late).2
  detaches late generation i hlive hattached := by
    have hlate := (h.calls late).1
    have hend := (h.calls (late ++ [.settle generation (.ok i)])).1
    rw [List.foldl_append] at hend
    rw [hlate] at hattached
    rw [hend, hlate]
    exact LawfulAdapter.unmount hlive hattached

variable [LawfulAdapter H]

theorem Sound.tearsDown [IndependentAdapter H] {c : Container H} (h : c.Sound)
    (order : Flights.Order) : c.TearsDown order (c.teardown order) := by
  obtain ⟨hcoherent, htidy, hticketed⟩ := h
  have hgone := hcoherent.gone_teardown order
  have hhanded := order.handed_perm c.flights
  cases hup : c.tornDown with
  | true =>
    obtain ⟨hphase, hflights⟩ := hcoherent.rested hup
    have hnone : order.handed c.flights = [] := List.perm_nil.1 (hflights ▸ hhanded)
    have hteardown : c.teardown order = c := by rw [teardown_eq, if_pos hup]
    have hshows := htidy.stage
    rw [hphase] at hshows
    rw [hteardown] at hgone ⊢
    refine ⟨hgone, fun hdown => absurd (hup.symm.trans hdown) (by simp), hshows.attached, rfl,
      ?_, ?_⟩
    · rw [hnone]
      exact (List.append_nil _).symm
    · rw [hnone, hphase]
      exact ((List.append_nil _).trans (List.append_nil _)).symm
  | false =>
    -- The mounts are drained first, with the plugin that was showing still attached.
    have hpassed := passed_drain c.host (hticketed.distinct_of_perm hhanded)
    have hdrained := htidy.drained (order.handed c.flights)
    obtain ⟨hmounts, hattachments, hdetachments⟩ := stage_release hdrained
    have hteardown : (c.teardown order).host =
        release (drain c.host (order.handed c.flights)) c.current := by
      rw [teardown_eq, hup]
      rfl
    refine ⟨hgone, fun _ => closed_eq hup order, ?_, ?_, ?_, ?_⟩
    · rw [hteardown]
      exact hdrained.release.attached
    · rw [hteardown]
      exact hmounts.trans hpassed.mounts
    · rw [hteardown]
      exact hattachments.trans hpassed.attachments
    · rw [hteardown]
      refine hdetachments.trans ?_
      rw [hpassed.detachments]

/-- A teardown at the end of any run leaves nothing behind, and it is final, in whatever order the
mounts in flight are handed out. -/
theorem teardown_run [IndependentAdapter H] (registry : Registry) (host : H) (region : String)
    (hhost : Adapter.stage host = .empty) {es : List (Event H)}
    (hstage : ∀ e ∈ es, e.KeepsStage) (hkeys : ∀ e ∈ es, e.KeepsKeys) (order : Flights.Order) :
    let c := (new registry host region).run es
    let watched := ((new registry (Watched.of host) region).run
      (es.map (.lift Watched.projection))).teardown order
    c.TearsDown order (c.teardown order) ∧ (c.teardown order).Final ∧
      watched.project Watched.projection = c.teardown order ∧ watched.NeverMounts := by
  intro c watched
  have hsound := (sound_new registry host region hhost).run hstage hkeys
  have hwatched := (coherent_new registry (Watched.of host) region).run
    (es.map (.lift Watched.projection))
  refine ⟨hsound.tearsDown order, (hsound.coherent.gone_teardown order).final, ?_,
    (hwatched.gone_teardown order).neverMounts⟩
  rw [← teardown_project, run_project]
  rfl

/-- While `c` is showing, `a` and `b` wait at their gates; that of `a` is then opened. -/
def crowdedGates : List (Event Scripted) :=
  [.deliver (.ofActivation ⟨[⟨"a"⟩, ⟨"b"⟩, ⟨"c"⟩], none, some ⟨"a"⟩⟩),
    .deliver (.ofActivation ⟨[⟨"a"⟩, ⟨"b"⟩, ⟨"c"⟩], none, some ⟨"b"⟩⟩),
    .deliver (.ofActivation ⟨[⟨"a"⟩, ⟨"b"⟩, ⟨"c"⟩], none, some ⟨"c"⟩⟩),
    .adapter fun h => (h.openGate ⟨"a"⟩ none).1]

/-- The bundles of `a` and `b` are fetched side by side, and that of `a` is about to come. -/
def crowdedFetches : List (Event Headless) :=
  [.deliver (.ofActivation ⟨[⟨"a"⟩, ⟨"b"⟩], none, some ⟨"a"⟩⟩), .look ⟨1, ⟨⟨"a"⟩, 0⟩⟩,
    .deliver (.ofActivation ⟨[⟨"a"⟩, ⟨"b"⟩], none, some ⟨"b"⟩⟩)]

/-- Two mounts are in flight over either adapter, and the finished one is attached and detached,
whichever is handed out first. -/
theorem teardown_run_crowded :
    (let registry : Registry := .plain .none [⟨"a"⟩, ⟨"b"⟩, ⟨"c"⟩] (by decide)
      let host := Scripted.ofScript [(⟨"a"⟩, .gated), (⟨"b"⟩, .gated)]
      let c := (new registry host "main").run crowdedGates
      (∀ order, c.TearsDown order (c.teardown order) ∧ (c.teardown order).Final) ∧
        c.flights.size = 2 ∧
        (c.teardown .oldestFirst).host.stage.detachments = [⟨"a"⟩, ⟨"c"⟩]) ∧
    (let registry : Registry := .plain (.bundle "bundle.js") [⟨"a"⟩, ⟨"b"⟩] (by decide)
      let c := (new registry Headless.empty "main").run crowdedFetches
      (∀ order, c.TearsDown order (c.teardown order) ∧ (c.teardown order).Final) ∧
        c.flights.size = 2 ∧
        (c.teardown .newestFirst).host.stage.detachments = [⟨"a"⟩]) := by
  constructor
  · intro registry host c
    have hstage : ∀ e ∈ crowdedGates, e.KeepsStage := by
      simp only [crowdedGates, List.forall_mem_cons, List.not_mem_nil, false_implies, implies_true,
        and_true]
      exact ⟨trivial, trivial, trivial, fun h => h.stage_openGate ⟨"a"⟩ none⟩
    have hkeys : ∀ e ∈ crowdedGates, e.KeepsKeys := by
      simp only [crowdedGates, List.forall_mem_cons, List.not_mem_nil, false_implies, implies_true,
        and_true]
      exact ⟨trivial, trivial, trivial, fun h => Nat.le_of_eq (h.nextKey_openGate ⟨"a"⟩ none).symm⟩
    have hrun := teardown_run registry host "main" (Scripted.stage_ofScript _) hstage hkeys
    exact ⟨fun order => ⟨(hrun order).1, (hrun order).2.1⟩, by decide, by decide⟩
  · intro registry c
    have hstage : ∀ e ∈ crowdedFetches, e.KeepsStage := by simp [crowdedFetches, Event.KeepsStage]
    have hkeys : ∀ e ∈ crowdedFetches, e.KeepsKeys := by simp [crowdedFetches, Event.KeepsKeys]
    have hrun := teardown_run registry Headless.empty "main" rfl hstage hkeys
    exact ⟨fun order => ⟨(hrun order).1, (hrun order).2.1⟩, by decide, by decide⟩

end Container

end Dashboard
