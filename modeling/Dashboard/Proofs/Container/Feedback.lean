import Dashboard.Container.Session
import Dashboard.Proofs.Container.Drive
import Dashboard.Proofs.Container.Ledger
import Dashboard.Proofs.Container.Target

/-!
# The container and its own echo

A confirmation changes the store, and the store's change is delivered to the container that caused
it. The loops that deliver until nothing changes any more end all the same: the plugin that was
confirmed was eligible and has become the selection, so the resolver answers with it again, and the
echo starts nothing. A loop therefore mounts one plugin at most, however many mounts were in flight
when it began and in whatever order they are polled.
-/

namespace Dashboard

theorem Flights.toList_of_awake {f : Flights} (hawake : f.asleep = []) : f.toList = f.queue := by
  rw [toList, hawake, List.append_nil]

namespace Headless

open Container (Event)

/-! ### Mounts over the headless adapter settle -/

/-- A mount in flight has been attached when it is polled for the second time. -/
theorem poll_eq (h : Headless) (t : Ticket) :
    (t.key ∈ h.fetched ∧ ∃ h', Adapter.poll h t = (h', .settled (.ok ⟨t.plugin, true⟩))) ∨
      t.key ∉ h.fetched ∧
        Adapter.poll h t = ({ h with fetched := t.key :: h.fetched }, .yielded) := by
  change (_ ∧ ∃ h', poll h t = _) ∨ _ ∧ poll h t = _
  unfold poll
  by_cases hfetched : t.key ∈ h.fetched
  · rw [if_pos (List.contains_iff_mem.2 hfetched)]
    exact .inl ⟨hfetched, _, rfl⟩
  · rw [if_neg (by simpa using hfetched)]
    exact .inr ⟨hfetched, rfl⟩

theorem failure?_eq_none (c : Container Headless) (e : Event Headless) : c.failure? e = none := by
  refine Option.eq_none_iff_forall_ne_some.2 fun ⟨id, err⟩ hfailure => ?_
  cases e with
  | deliver s =>
    obtain ⟨d, -, -, hfailed⟩ := Container.failure?_deliver hfailure
    rcases hmount : Adapter.mount (c.cleared s).host ((c.cleared s).mountContext d) with
      ⟨h', request⟩
    rw [hmount] at hfailed
    cases request with
    | pending t => cases hfailed
    | ready result =>
      cases result with
      | ok i => cases hfailed
      | error e => exact mount_not_failed hmount
  | look m =>
    obtain ⟨-, -, hfailed⟩ := Container.failure?_look hfailure
    rcases poll_eq c.host m.ticket with ⟨-, h', hpoll⟩ | ⟨-, hpoll⟩
    · rw [hpoll] at hfailed
      cases hfailed
    · rw [hpoll] at hfailed
      cases hfailed
  | _ => cases hfailure

/-- Whether a mount has never been polled. -/
def untouched (h : Headless) (m : InFlight) : Bool := !h.fetched.contains m.ticket.key

/-- A mount that yields is no longer untouched, and no other mount becomes so. -/
theorem countP_untouched_lt (h : Headless) {m : InFlight} {queue : List InFlight} (hm : m ∈ queue)
    (hfresh : h.untouched m = true) :
    queue.countP (untouched { h with fetched := m.ticket.key :: h.fetched }) <
      queue.countP h.untouched := by
  have hsplit := List.perm_cons_erase hm
  have htouched : untouched { h with fetched := m.ticket.key :: h.fetched } m = false := by
    simp [untouched]
  rw [hsplit.countP_eq, hsplit.countP_eq, List.countP_cons_of_neg (by simp [htouched]),
    List.countP_cons_of_pos hfresh]
  refine Nat.lt_succ_of_le (List.countP_mono_left fun n _ hn => ?_)
  simp only [untouched, Bool.not_eq_true', List.contains_eq_mem, decide_eq_false_iff_not,
    List.mem_cons, not_or] at hn ⊢
  exact hn.2

/-- However queued mounts are polled, one of them settles, or every poll was the first one of its
mount. -/
theorem pollEach_eq (h : Headless) (queue : List InFlight) (polls : List InFlight) :
    (∃ h' left g i, Flights.pollEach h ⟨queue, []⟩ polls = (h', ⟨left, []⟩, some (g, .ok i)) ∧
      left.length + 1 = queue.length) ∨
    ∃ h' left, Flights.pollEach h ⟨queue, []⟩ polls = (h', ⟨left, []⟩, none) ∧ left.Perm queue ∧
      ((∀ m ∈ polls, m ∈ queue) → polls.length ≤ queue.countP h.untouched) := by
  induction polls generalizing h queue with
  | nil => exact .inr ⟨h, queue, rfl, .refl _, fun _ => Nat.zero_le _⟩
  | cons m polls ih =>
    rw [Flights.pollEach]
    by_cases hm : m ∈ queue
    · rw [if_pos hm]
      have hremove : Flights.remove ⟨queue, []⟩ m = ⟨queue.erase m, []⟩ := if_pos hm
      have hsplit := List.perm_cons_erase hm
      rcases poll_eq h m.ticket with ⟨-, h', hpoll⟩ | ⟨hfresh, hpoll⟩
      · rw [hpoll]
        refine .inl ⟨h', queue.erase m, m.generation, ⟨m.ticket.plugin, true⟩, ?_,
          hsplit.length_eq.symm⟩
        simp only [hremove]
      · have hagain : (queue.erase m ++ [m]).Perm queue :=
          (List.perm_append_singleton m _).trans hsplit.symm
        have huntouched : h.untouched m = true := by simpa [untouched] using hfresh
        have hfewer := h.countP_untouched_lt hm huntouched
        simp only [hpoll, hremove, Flights.push]
        rcases ih { h with fetched := m.ticket.key :: h.fetched } (queue.erase m ++ [m]) with
          ⟨h', left, g, i, hpolled, hleft⟩ | ⟨h', left, hpolled, hleft, hfew⟩
        · exact .inl ⟨h', left, g, i, hpolled, hleft.trans hagain.length_eq⟩
        · refine .inr ⟨h', left, hpolled, hleft.trans hagain, fun hall => ?_⟩
          have hrest := hfew fun n hn =>
            hagain.mem_iff.2 (hall n (List.mem_cons_of_mem m hn))
          rw [hagain.countP_eq] at hrest
          rw [List.length_cons]
          omega
    · rw [if_neg hm]
      rcases ih h queue with hsettled | ⟨h', left, hpolled, hleft, -⟩
      · exact .inl hsettled
      · exact .inr ⟨h', left, hpolled, hleft, fun hall => absurd (hall m List.mem_cons_self) hm⟩

end Headless

namespace Container

variable {c : Container Headless} {store : MemoryStore}

theorem flights_settled {H : Type} [Adapter H] (c : Container H) (generation : Nat)
    (result : MountResult) : (c.settled generation result).1.flights = c.flights := by
  by_cases hawaits : ∃ id, c.Awaits generation id
  · obtain ⟨id, hawaits⟩ := hawaits
    cases result with
    | ok i => rw [settled_of_awaits_ok hawaits]
    | error e => rw [settled_of_awaits_error hawaits]
  · rw [settled_of_not_awaits result fun id h => hawaits ⟨id, h⟩]
    cases result <;> rfl

/-- A wait takes in one of the mounts in flight, or goes on; it is over after one poll more than
there are mounts. -/
theorem settleBy_of_flying (hawake : c.flights.asleep = []) (hflying : c.flights.queue ≠ [])
    (polls : List InFlight) :
    (c.settleBy polls).1.flights.asleep = [] ∧
    ((c.settleBy polls).2.2 = .settled ∧
        (c.settleBy polls).1.flights.queue.length + 1 = c.flights.queue.length ∨
      (c.settleBy polls).2.2 = .waiting ∧ ¬c.flights.OutlastedBy polls) := by
  have hflights : c.flights = ⟨c.flights.queue, []⟩ := by rw [← hawake]
  have hqueued := Flights.toList_of_awake hawake
  have hbusy : c.flights.isEmpty = false := by
    rw [Flights.isEmpty, hqueued, ← Bool.not_eq_true, List.isEmpty_iff]
    exact hflying
  have hpolled := c.host.pollEach_eq c.flights.queue polls
  rw [← hflights] at hpolled
  rw [settleBy, if_neg (ne_true_of_eq_false hbusy)]
  rcases hpolled with ⟨h', left, g, i, hpolled, hleft⟩ | ⟨h', left, hpolled, -, hfew⟩
  · have hsettled := flights_settled { c with host := h', flights := ⟨left, []⟩ } g (.ok i)
    rw [hpolled]
    simp only [hsettled, true_and]
    exact .inl hleft
  · rw [hpolled]
    refine ⟨rfl, .inr ⟨rfl, fun houtlasted => ?_⟩⟩
    obtain ⟨hmore, hall⟩ := houtlasted
    rw [Flights.size, hqueued] at hmore
    have hfew := hfew fun m hm => hqueued ▸ hall m hm
    exact absurd (Nat.le_trans hfew List.countP_le_length) (Nat.not_le.2 hmore)

/-! ### Containers that follow the resolver -/

/-- The container works, and it has lost no plugin that the resolver asked for. -/
structure Follows (c : Container Headless) (told : Option Snapshot) : Prop where
  pure : c.registry.IsPure
  up : c.tornDown = false
  onTarget : c.OnTarget told fun _ => False

/-- What the container mounts or shows is the resolver's answer to a state. -/
def Level {H : Type} (c : Container H) (s : Snapshot) : Prop :=
  c.registry.target s = c.phase.plugin?

theorem follows_new (registry : Registry) (hpure : registry.IsPure) (host : Headless)
    (region : String) : (new registry host region).Follows none :=
  ⟨hpure, rfl, onTarget_new registry host region _⟩

theorem Follows.wanted_eq {told : Option Snapshot} (h : c.Follows told) :
    c.wanted = c.phase.plugin? := by
  cases hplugin : c.phase.plugin? with
  | some id => exact h.onTarget.target id hplugin
  | none =>
    refine Option.eq_none_iff_forall_ne_some.2 fun id hid => ?_
    exact h.onTarget.idle h.up hplugin id hid

/-- Deliveries and looks at the mounts in flight. -/
def Event.Feeds : Event Headless → Prop
  | .deliver _ => True
  | .look _ => True
  | _ => False

theorem Follows.step {told : Option Snapshot} (h : c.Follows told) {e : Event Headless}
    (he : e.Feeds) : (c.step e).1.Follows (e.delivered?.or told) where
  pure := by rw [step_registry]; exact h.pure
  up := by rw [step_tornDown c e fun _ hgone => by subst hgone; exact he]; exact h.up
  onTarget := by
    refine h.onTarget.step h.pure e fun id hid => ?_
    rcases hid with hlost | ⟨-, hfalse⟩
    · cases e with
      | deliver | look => simp [lost?, Headless.failure?_eq_none] at hlost
      | _ => exact he.elim
    · exact hfalse

/-- A delivery levels the container with the state. -/
theorem Follows.level_deliver {told : Option Snapshot} (h : c.Follows told) (s : Snapshot) :
    (c.step (.deliver s)).1.Level s := by
  have hafter := h.step (e := .deliver s) trivial
  exact (hafter.onTarget.heard hafter.up s rfl).symm.trans hafter.wanted_eq

theorem Follows.level_look {told : Option Snapshot} {s : Snapshot} (h : c.Follows told)
    (m : InFlight) (hlevel : c.Level s) : (c.step (.look m)).1.Level s := by
  have hafter := h.step (e := .look m) trivial
  have hwanted : (c.step (.look m)).1.wanted = c.wanted := by
    rw [wanted, wanted, step_observed c (.look m) (by simp), step_registry]
  rw [Level, ← hafter.wanted_eq, hwanted, h.wanted_eq, step_registry]
  exact hlevel

/-- The store hears of a confirmation, and the container stays level with it. -/
theorem level_dispatchAll {e : Event Headless} (h : (c.step e).1.Level store.snapshot) :
    (c.step e).1.Level (store.dispatchAll (c.step e).2).snapshot := by
  rw [said_step]
  cases hconfirms : c.confirms? e with
  | none => exact h
  | some id =>
    obtain ⟨g, hphase⟩ := phase_of_confirms? hconfirms
    have hplugin : (c.step e).1.phase.plugin? = some id := by rw [hphase]; rfl
    exact (target_confirmed (h.trans hplugin)).1.trans hplugin.symm

theorem Follows.run_looks {told : Option Snapshot} (h : c.Follows told) (looks : List InFlight) :
    (c.run (looks.map .look)).Follows told := by
  induction looks generalizing c with
  | nil => exact h
  | cons m looks ih => exact ih (h.step (e := .look m) trivial)

theorem Follows.level_looks {told : Option Snapshot} (h : c.Follows told)
    (hlevel : c.Level store.snapshot) (looks : List InFlight) :
    (c.run (looks.map .look)).Level (store.dispatchAll (c.said (looks.map .look))).snapshot := by
  induction looks generalizing c store with
  | nil => exact hlevel
  | cons m looks ih =>
    have hlooked : (c.step (.look m)).1.Level store.snapshot := h.level_look m hlevel
    rw [List.map_cons, run_cons, said, MemoryStore.dispatchAll, List.foldl_append]
    exact ih (h.step (e := .look m) trivial) (level_dispatchAll hlooked)

/-! ### The number of mounts -/

section

variable {H : Type} [Adapter H]

/-- The number of mounts that the adapter was asked for. -/
def attempts (c : Container H) : Nat := (Adapter.stage c.host).mounts.length

variable [RecordsMounts H]

theorem attempts_deliver (c : Container H) (s : Snapshot) :
    (c.step (.deliver s)).1.attempts = c.attempts + (c.launch? s).toList.length := by
  have hmounts := congrArg List.length
    ((Ledger.mounts H).entries_step c (e := .deliver s) trivial)
  rw [List.length_append, List.length_map] at hmounts
  refine hmounts.trans (congrArg _ ?_)
  rw [request?]
  cases c.launch? s <;> rfl

theorem attempts_deliver_le (c : Container H) (s : Snapshot) :
    (c.step (.deliver s)).1.attempts ≤ c.attempts + 1 := by
  rw [attempts_deliver]
  cases c.launch? s <;> simp

omit [RecordsMounts H] in
/-- A state that the container is level with starts nothing, and nothing is dispatched. -/
theorem Level.deliver {c : Container H} {s : Snapshot} (h : c.Level s) :
    (c.step (.deliver s)).2 = [] ∧ (c.step (.deliver s)).1.flights = c.flights := by
  have htarget : c.registry.target s = c.phase.plugin? := h
  change (c.onStateChange s).2 = [] ∧ (c.onStateChange s).1.flights = c.flights
  rw [onStateChange_eq, if_pos htarget]
  split <;> exact ⟨rfl, rfl⟩

theorem Level.attempts_deliver {c : Container H} {s : Snapshot} (h : c.Level s) :
    (c.step (.deliver s)).1.attempts = c.attempts := by
  rw [Container.attempts_deliver, launch?_eq_none_of_target h]
  rfl

omit [RecordsMounts H] in
theorem flights_deliver (c : Container H) (s : Snapshot) :
    (c.step (.deliver s)).1.flights.asleep = c.flights.asleep ∧
      (c.step (.deliver s)).1.flights.queue.length ≤ c.flights.queue.length + 1 := by
  have hout := step_outcome c (.deliver s)
  generalize c.step (.deliver s) = after at hout
  cases hout with
  | @launched s d host t => exact ⟨rfl, Nat.le_of_eq (List.length_append ..)⟩
  | _ => exact ⟨rfl, Nat.le_succ _⟩

theorem attempts_settleBy (c : Container H) (polls : List InFlight) :
    (c.settleBy polls).1.attempts = c.attempts := by
  obtain ⟨looks, hlooks, -⟩ := c.settleBy_eq_run polls
  rw [hlooks]
  exact congrArg List.length ((Ledger.mounts H).entries_looks c looks)

end

/-! ### The loop of the command -/

theorem registry_onStateChange {H : Type} [Adapter H] (c : Container H) (s : Snapshot) :
    (c.onStateChange s).1.registry = c.registry := c.step_registry (.deliver s)

theorem registry_settleBy {H : Type} [Adapter H] (c : Container H) (polls : List InFlight) :
    (c.settleBy polls).1.registry = c.registry := by
  obtain ⟨looks, hrun, -⟩ := c.settleBy_eq_run polls
  rw [hrun, run_registry]

/-- The container is level with its store, and nothing that is in flight sleeps. -/
structure Steady (x : Container Headless × MemoryStore) : Prop where
  follows : ∃ told, x.1.Follows told
  awake : x.1.flights.asleep = []
  level : x.1.Level x.2.snapshot

theorem Follows.steady_tell {told : Option Snapshot} (h : c.Follows told)
    (hawake : c.flights.asleep = []) (store : MemoryStore) : Steady (tell (c, store)) where
  follows := ⟨_, h.step (e := .deliver store.snapshot) trivial⟩
  awake := (flights_deliver c store.snapshot).1.trans hawake
  level := level_dispatchAll (h.level_deliver store.snapshot)

/-- What is taken in during a wait leaves the container level with the store. -/
theorem Steady.settle (h : Steady (c, store)) (polls : List InFlight)
    (hawake : (c.settleBy polls).1.flights.asleep = []) :
    Steady ((c.settleBy polls).1, store.dispatchAll (c.settleBy polls).2.1) := by
  obtain ⟨looks, hrun, hsaid⟩ := c.settleBy_eq_run polls
  obtain ⟨told, hfollows⟩ := h.follows
  have hlevel := hfollows.level_looks h.level looks
  rw [← hrun, ← hsaid] at hlevel
  exact ⟨⟨told, hrun ▸ hfollows.run_looks looks⟩, hawake, hlevel⟩

/-- A round of a steady container settles one of its mounts in flight and starts none: what was
confirmed comes back as a state that the container is level with. -/
theorem Steady.round {x y : Container Headless × MemoryStore} {polls : List InFlight}
    {settling : Settling} (h : Steady (tell x)) (hflying : (tell x).1.flights.queue ≠ [])
    (hround : round polls x = (y, settling)) :
    settling = .settled ∧ Steady (tell y) ∧
        (tell y).1.flights.queue.length + 1 = (tell x).1.flights.queue.length ∧
        (tell y).1.attempts = (tell x).1.attempts ∧ y.1.registry = x.1.registry ∨
      settling = .waiting ∧ ¬(tell x).1.flights.OutlastedBy polls := by
  obtain ⟨rfl, rfl⟩ := Prod.mk.inj hround.symm
  obtain ⟨hawake, hprogress⟩ := settleBy_of_flying h.awake hflying polls
  refine hprogress.imp_left fun hprogress => ?_
  obtain ⟨hsettled, hleft⟩ := hprogress
  have hsteady := h.settle polls hawake
  obtain ⟨told, hfollows⟩ := hsteady.follows
  refine ⟨hsettled, hfollows.steady_tell hawake _, ?_, ?_, ?_⟩
  · rw [← hleft]
    exact congrArg (fun flights => flights.queue.length + 1) hsteady.level.deliver.2
  · exact hsteady.level.attempts_deliver.trans (attempts_settleBy _ polls)
  · exact (registry_settleBy _ polls).trans (step_registry x.1 (.deliver x.2.snapshot))

/-- What the loop leaves when it began with `c`: nothing in flight, the plugin that the resolver
names, and no more than one mount that was asked for. -/
structure Landed (c : Container Headless) (y : Container Headless × MemoryStore) : Prop where
  landed : y.1.flights.toList = []
  plugin : y.1.phase.plugin? = c.registry.target y.2.snapshot
  attempts : y.1.attempts ≤ c.attempts + 1

/-- The loop ends after one round for each mount in flight, and one more that finds nothing. -/
theorem Steady.endsWithin {n : Nat} {x : Container Headless × MemoryStore} (h : Steady (tell x))
    (hn : (tell x).1.flights.queue.length = n) (hregistry : x.1.registry = c.registry)
    (hattempts : (tell x).1.attempts ≤ c.attempts + 1) : EndsWithin (Landed c) (n + 1) x := by
  induction n generalizing x with
  | zero =>
    have hlanded : (tell x).1.flights.toList = [] := by
      rw [Flights.toList_of_awake h.awake]
      exact List.eq_nil_of_length_eq_zero hn
    refine endsWithin_of_landed rfl hlanded ⟨hlanded, ?_, hattempts⟩
    rw [← hregistry, ← step_registry x.1 (.deliver x.2.snapshot)]
    exact h.level.symm
  | succ n ih =>
    have hflying : (tell x).1.flights.queue ≠ [] := fun hempty => by simp [hempty] at hn
    refine endsWithin_of_round fun polls y settling hround => ?_
    rcases h.round hflying hround with ⟨rfl, hsteady, hleft, hkept, hsame⟩ | ⟨rfl, hpolls⟩
    · exact ih hsteady (by omega) (hsame.trans hregistry) (hkept ▸ hattempts)
    · exact hpolls

/-- The containers that deliveries and waits for mounts to settle make of a new one. -/
inductive Reached : Container Headless → Prop
  | new (registry : Registry) (host : Headless) (region : String) :
    Reached (new registry host region)
  | deliver {c : Container Headless} (s : Snapshot) (h : Reached c) : Reached (c.onStateChange s).1
  | settle {c : Container Headless} (polls : List InFlight) (h : Reached c) :
    Reached (c.settleBy polls).1

theorem Reached.follows (h : Reached c) (hpure : c.registry.IsPure) :
    (∃ told, c.Follows told) ∧ c.flights.asleep = [] := by
  induction h with
  | new registry host region => exact ⟨⟨none, follows_new registry hpure host region⟩, rfl⟩
  | @deliver c s _ ih =>
    obtain ⟨⟨told, hfollows⟩, hawake⟩ := ih (registry_onStateChange c s ▸ hpure)
    exact ⟨⟨_, hfollows.step (e := .deliver s) trivial⟩, (flights_deliver c s).1.trans hawake⟩
  | @settle c polls _ ih =>
    obtain ⟨looks, hrun, -⟩ := c.settleBy_eq_run polls
    obtain ⟨⟨told, hfollows⟩, hawake⟩ := ih (registry_settleBy c polls ▸ hpure)
    refine ⟨⟨told, hrun ▸ hfollows.run_looks looks⟩, ?_⟩
    by_cases hflying : c.flights.queue = []
    · rw [settleBy_of_landed ((Flights.toList_of_awake hawake).trans hflying)]
      exact hawake
    · exact (settleBy_of_flying hawake hflying polls).1

/-- The loop of the command ends, with nothing in flight and the container level with the store. -/
theorem Reached.endsWithin (h : Reached c) (hpure : c.registry.IsPure) (store : MemoryStore) :
    EndsWithin (Landed c) (c.flights.size + 2) (c, store) := by
  obtain ⟨⟨told, hfollows⟩, hawake⟩ := h.follows hpure
  have hsize : (tell (c, store)).1.flights.queue.length + 1 ≤ c.flights.size + 2 := by
    have hpushed := (flights_deliver c store.snapshot).2
    have hqueue : c.flights.size = c.flights.queue.length :=
      congrArg List.length (Flights.toList_of_awake hawake)
    exact hqueue ▸ Nat.succ_le_succ hpushed
  have hends := (hfollows.steady_tell hawake store).endsWithin rfl rfl
    (attempts_deliver_le c store.snapshot)
  exact hends.mono hsize fun _ hlanded => hlanded

end Container

namespace Session

open Container (attempts)

/-! ### The loop of the session -/

/-- The session's loop, whose bound is not known beforehand, ends after a number of deliveries: it
goes on until the container was told the newest version of the state. -/
inductive Notifies : Nat → Session → Session → Prop
  | told {s : Session} (h : s.delivered = some s.store.version) : Notifies 0 s s
  | again {n : Nat} {s t : Session} (h : s.delivered ≠ some s.store.version)
      (hrest : Notifies n
        ({ s with delivered := some s.store.version }.observe s.store.snapshot) t) :
      Notifies (n + 1) s t

/-- One delivery of the newest state. -/
def tell (s : Session) : Session :=
  { s with delivered := some s.store.version }.observe s.store.snapshot

theorem notifyRounds_of_told {s : Session} (h : s.delivered = some s.store.version) (n : Nat) :
    notifyRounds n s = s := by
  cases n with
  | zero => rfl
  | succ n => exact if_pos h

theorem notifyRounds_succ {s : Session} (h : s.delivered ≠ some s.store.version) (n : Nat) :
    notifyRounds (n + 1) s = notifyRounds n s.tell := if_neg h

/-- Without a confirmation the state stays as it was delivered. -/
theorem told_tell {s : Session}
    (hquiet : (s.container.step (.deliver s.store.snapshot)).2 = []) :
    s.tell.delivered = some s.tell.store.version := by
  change some s.store.version = some (s.store.dispatchAll
    (s.container.step (.deliver s.store.snapshot)).2).version
  rw [hquiet]
  rfl

theorem attempts_tell (s : Session) : s.tell.container.attempts ≤ s.container.attempts + 1 :=
  Container.attempts_deliver_le s.container s.store.snapshot

/-- A confirmation levels the container with the state that it causes. -/
theorem level_tell {s : Session} {id : PluginId}
    (hconfirms : s.container.confirms? (.deliver s.store.snapshot) = some id) :
    s.tell.container.Level s.tell.store.snapshot := by
  have hsaid := s.container.said_step (.deliver s.store.snapshot)
  have hregistry := s.container.step_registry (.deliver s.store.snapshot)
  have hout := Container.step_outcome s.container (.deliver s.store.snapshot)
  rw [hconfirms] at hsaid
  change Registry.target (s.container.step (.deliver s.store.snapshot)).1.registry
    (s.store.dispatchAll (s.container.step (.deliver s.store.snapshot)).2).snapshot =
      (s.container.step (.deliver s.store.snapshot)).1.phase.plugin?
  rw [hregistry]
  generalize s.container.step (.deliver s.store.snapshot) = after at hout hsaid
  cases hout with
  | took _ htarget => exact Registry.target_activated htarget
  | _ => cases hsaid

theorem notify_ends (s : Session) :
    (∃ n ≤ 2, Notifies n s s.notify) ∧ s.notify.container.attempts ≤ s.container.attempts + 1 := by
  by_cases htold : s.delivered = some s.store.version
  · rw [notify, notifyRounds_of_told htold]
    exact ⟨⟨0, Nat.zero_le 2, .told htold⟩, Nat.le_succ _⟩
  · rw [notify, notifyRounds_succ htold]
    by_cases hagain : s.tell.delivered = some s.tell.store.version
    · rw [notifyRounds_of_told hagain]
      exact ⟨⟨1, Nat.le_succ 1, .again htold (.told hagain)⟩, s.attempts_tell⟩
    · -- The state changed under the container, so it has confirmed a plugin.
      obtain ⟨id, hconfirms⟩ : ∃ id,
          s.container.confirms? (.deliver s.store.snapshot) = some id := by
        refine Option.ne_none_iff_exists'.1 fun hnone => hagain (told_tell ?_)
        rw [Container.said_step, hnone]
        rfl
      have hlevel := level_tell hconfirms
      have hend : s.tell.tell.delivered = some s.tell.tell.store.version :=
        told_tell hlevel.deliver.1
      rw [notifyRounds_succ hagain, notifyRounds_of_told hend]
      refine ⟨⟨2, Nat.le_refl 2, .again htold (.again hagain (.told hend))⟩, ?_⟩
      exact Nat.le_trans (Nat.le_of_eq hlevel.attempts_deliver) s.attempts_tell

end Session

namespace Container

/-- Both loops end. From every container over the headless adapter that was only fed and waited on,
the loop of the command ends within two rounds more than there were mounts in flight, however mounts
are polled. It has then asked for one mount at most, and it leaves nothing in flight and the plugin
that the resolver names. The loop of the session ends after at most two deliveries, and asks for one
mount at most, from any session at all. -/
theorem echo_ends {c : Container Headless} (hreached : Reached c) (hpure : c.registry.IsPure)
    (store : MemoryStore) :
    EndsWithin (Landed c) (c.flights.size + 2) (c, store) ∧
    (∀ order : Flights.Order,
      (∃ n ≤ c.flights.size + 2, Drives n (c, store) (c.drive order store)) ∧
        Landed c (c.drive order store)) ∧
    ∀ s : Session, (∃ n ≤ 2, Session.Notifies n s s.notify) ∧
      s.notify.container.attempts ≤ s.container.attempts + 1 := by
  have hends := hreached.endsWithin hpure store
  refine ⟨hends, fun order => ?_, Session.notify_ends⟩
  rw [drive_eq]
  exact hends.drives order (Nat.le_refl _)

/-- The bundles of `a` and `b` are being fetched, each polled once, when `a` is chosen again: both
fetches end, whichever comes first, and `a` is fetched once more. -/
theorem echo_ends_crowded :
    let registry : Registry :=
      .uniform (.bundle "bundle.js") (.minFlags "any flag" 1) [⟨"a"⟩, ⟨"b"⟩] (by decide)
    let picked (id : PluginId) : Snapshot :=
      ⟨⟨[⟨"a"⟩, ⟨"b"⟩], none, some id⟩, FeatureFlags.empty.withFlag "beta" true, .empty⟩
    let first := ((new registry Headless.empty "main").onStateChange (picked ⟨"a"⟩)).1
    let c := ((first.onStateChange (picked ⟨"b"⟩)).1.settleBy
      [⟨2, ⟨⟨"b"⟩, 1⟩⟩, ⟨1, ⟨⟨"a"⟩, 0⟩⟩]).1
    let store := MemoryStore.ofSnapshot (picked ⟨"a"⟩)
    c.flights.size = 2 ∧ EndsWithin (Landed c) (c.flights.size + 2) (c, store) ∧
      (∀ order, ∃ n ≤ c.flights.size + 2, Drives n (c, store) (c.drive order store)) ∧
      (c.drive .oldestFirst store).1.phase = .mounted ⟨"a"⟩ 3 ∧
      (c.drive .newestFirst store).1.attempts = c.attempts + 1 := by
  intro registry picked first c store
  have hreached : Reached c :=
    .settle _ (.deliver _ (.deliver _ (.new registry Headless.empty "main")))
  have hregistry : c.registry = registry := (registry_settleBy _ _).trans
    ((registry_onStateChange first _).trans (registry_onStateChange _ _))
  have hpure : c.registry.IsPure := hregistry ▸ Registry.isPure_uniform (.bundle "bundle.js")
    (Predicate.isPure_minFlags "any flag" 1) _
  obtain ⟨hends, hdrives, -⟩ := echo_ends hreached hpure store
  exact ⟨by decide, hends, fun order => (hdrives order).1, by decide, by decide⟩

end Container

end Dashboard
