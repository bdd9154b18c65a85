import Dashboard.Host.Headless
import Dashboard.Proofs.Container.Outcome
import Dashboard.Proofs.Container.Rounds

/-!
# Driving a container to rest

Over the headless adapter a container that has nothing in flight comes to rest again within two
rounds, however mounts are polled. It then shows what the resolver answers to the state it was
driven from, and it has made one attempt for that, or none if it showed the same before.
-/

namespace Dashboard

namespace Headless

theorem mount_not_failed {h h' : Headless} {ctx : MountContext} {e : MountError} :
    Adapter.mount h ctx ≠ (h', .ready (.error e)) := by
  change mount h ctx ≠ _
  unfold mount
  cases ctx.mount <;> simp [attach]

theorem fetched_of_mount {h h' : Headless} {ctx : MountContext} {request : MountRequest}
    (hmount : Adapter.mount h ctx = (h', request)) : h'.fetched = h.fetched := by
  have hkept : (mount h ctx).1.fetched = h.fetched := by
    unfold mount
    cases ctx.mount <;> rfl
  change mount h ctx = _ at hmount
  rw [hmount] at hkept
  exact hkept

theorem fetched_release (h : Headless) (current : Option Instance) :
    (Container.release h current).fetched = h.fetched := by
  cases current with
  | none => rfl
  | some i =>
    change (unmount h i).1.fetched = h.fetched
    unfold unmount
    split <;> rfl

/-! ### A single mount in flight -/

theorem pollEach_skip (h : Headless) {m n : InFlight} (hne : n ≠ m) (polls : List InFlight) :
    (Flights.empty.push m).pollEach h (n :: polls) = (Flights.empty.push m).pollEach h polls := by
  rw [Flights.pollEach, if_neg (by simpa [Flights.push, Flights.empty] using hne)]

theorem mem_queue_push (m : InFlight) : m ∈ (Flights.empty.push m).queue := List.mem_cons_self

theorem remove_push (m : InFlight) : (Flights.empty.push m).remove m = .empty := by
  simp [Flights.remove, Flights.push, Flights.empty]

/-- A mount that has been polled before settles at the next poll. -/
theorem pollEach_fetched {h : Headless} {m : InFlight} (hfetched : h.fetched = [m.ticket.key])
    (polls : List InFlight) :
    (Flights.empty.push m).pollEach h polls =
        ({ h with stage := h.stage.attach m.ticket.plugin, fetched := [] }, .empty,
          some (m.generation, .ok ⟨m.ticket.plugin, true⟩)) ∨
      ((Flights.empty.push m).pollEach h polls).2.2 = none ∧ m ∉ polls := by
  induction polls with
  | nil => exact .inr ⟨rfl, List.not_mem_nil⟩
  | cons n polls ih =>
    by_cases hn : n = m
    · subst hn
      have hsettles : Adapter.poll h n.ticket =
          ({ h with stage := h.stage.attach n.ticket.plugin, fetched := [] },
            .settled (.ok ⟨n.ticket.plugin, true⟩)) := by
        change poll h n.ticket = _
        simp [poll, attach, hfetched]
      rw [Flights.pollEach, if_pos (mem_queue_push n), hsettles, remove_push]
      exact .inl rfl
    · rw [pollEach_skip h hn]
      rcases ih with hsettled | ⟨hnone, hm⟩
      · exact .inl hsettled
      · exact .inr ⟨hnone, List.not_mem_cons_of_ne_of_not_mem (Ne.symm hn) hm⟩

/-- A single mount in flight has settled when it was polled twice. -/
theorem pollEach_push {h : Headless} (hfetched : h.fetched = []) (m : InFlight)
    (polls : List InFlight) :
    (Flights.empty.push m).pollEach h polls =
        ({ h with stage := h.stage.attach m.ticket.plugin }, .empty,
          some (m.generation, .ok ⟨m.ticket.plugin, true⟩)) ∨
      ((Flights.empty.push m).pollEach h polls).2.2 = none ∧
        ((∀ n ∈ polls, n = m) → polls.length ≤ 1) := by
  induction polls with
  | nil => exact .inr ⟨rfl, fun _ => Nat.zero_le 1⟩
  | cons n polls ih =>
    by_cases hn : n = m
    · subst hn
      have hyields : Adapter.poll h n.ticket =
          ({ h with fetched := [n.ticket.key] }, .yielded) := by
        change poll h n.ticket = _
        simp [poll, hfetched]
      rw [Flights.pollEach, if_pos (mem_queue_push n), hyields, remove_push]
      rcases pollEach_fetched (h := { h with fetched := [n.ticket.key] }) rfl polls with
        hsettled | ⟨hnone, hn⟩
      · exact .inl (hsettled.trans (by rw [← hfetched]))
      · refine .inr ⟨hnone, fun hpolls => ?_⟩
        -- The mount was not polled again, so there was no other poll.
        cases polls with
        | nil => exact Nat.le_refl 1
        | cons k polls =>
          exact absurd (hpolls k (by simp) ▸ List.mem_cons_self) hn
    · rw [pollEach_skip h hn]
      rcases ih with hsettled | ⟨hnone, -⟩
      · exact .inl hsettled
      · exact .inr ⟨hnone, fun hpolls => absurd (hpolls n List.mem_cons_self) hn⟩

end Headless

/-- The states agree in all that decides which plugins are eligible. -/
structure Snapshot.SameChoices (s s' : Snapshot) : Prop where
  known : s'.activation.known = s.activation.known
  flags : s'.flags = s.flags
  settings : s'.settings = s.settings

theorem Snapshot.SameChoices.refl (s : Snapshot) : s.SameChoices s := ⟨rfl, rfl, rfl⟩

theorem Snapshot.SameChoices.trans {s s' s'' : Snapshot} (h : s.SameChoices s')
    (h' : s'.SameChoices s'') : s.SameChoices s'' :=
  ⟨h'.known.trans h.known, h'.flags.trans h.flags, h'.settings.trans h.settings⟩

namespace Container

variable {c : Container Headless} {s s' : Snapshot} {store : MemoryStore}

/-- Nothing is in flight, nothing has gone wrong, and the container shows what it should as far as
it took note of the state. -/
structure Rests (c : Container Headless) (s : Snapshot) : Prop where
  up : c.tornDown = false
  landed : c.flights = .empty
  fetched : c.host.fetched = []
  lastError : c.lastError = none
  followed : ∀ o, c.observed = some o →
    s.SameChoices ⟨⟨o.known, none, o.selection⟩, o.flags, o.settings⟩ ∧
      c.registry.answer o = c.phase.plugin?

theorem rests_new (registry : Registry) (region : String) (s : Snapshot) :
    (new registry Headless.empty region).Rests s := ⟨rfl, rfl, rfl, rfl, fun _ h => nomatch h⟩

/-- The container has just taken note of a state that decides as this one does. -/
theorem rests_of_told (hup : c.tornDown = false) (hlanded : c.flights = .empty)
    (hfetched : c.host.fetched = []) (herror : c.lastError = none)
    (htold : c.observed = some (.ofSnapshot s)) (hchoices : s.SameChoices s')
    (htarget : c.registry.target s = c.phase.plugin?) : c.Rests s' where
  up := hup
  landed := hlanded
  fetched := hfetched
  lastError := herror
  followed o ho := by
    obtain rfl := Option.some.inj (htold.symm.trans ho)
    exact ⟨⟨hchoices.known.symm, hchoices.flags.symm, hchoices.settings.symm⟩, htarget⟩

theorem Rests.congr (h : c.Rests s) (hs : s.SameChoices s') : c.Rests s' :=
  { h with
    followed := fun o ho => by
      obtain ⟨⟨hknown, hflags, hsettings⟩, hanswer⟩ := h.followed o ho
      exact ⟨⟨hknown.trans hs.known.symm, hflags.trans hs.flags.symm,
        hsettings.trans hs.settings.symm⟩, hanswer⟩ }

/-- A state that is no news has been taken note of, up to what is active. -/
theorem Rests.target_of_unheard (h : c.Rests s) (hunheard : c.hears s = false) :
    c.registry.target s = c.phase.plugin? := by
  cases hobserved : c.observed with
  | none => simp [hears, h.up, hobserved] at hunheard
  | some o =>
    have hsame : o.same (.ofSnapshot s) = true := by
      simpa [hears, h.up, hobserved] using hunheard
    obtain ⟨hchoices, hanswer⟩ := h.followed o hobserved
    have hselection : o.selection = s.activation.selection := by
      simp only [Observed.same, Bool.and_eq_true, beq_iff_eq] at hsame
      exact hsame.1.1.2
    rw [← hanswer]
    unfold Registry.target Registry.answer
    rw [← hchoices.known, ← hchoices.flags, ← hchoices.settings, ← hselection]

/-- The only mount in flight is confirmed, in whatever order mounts are polled. -/
theorem settleBy_of_push {id : PluginId} {m : InFlight}
    (hflights : c.flights = Flights.empty.push m) (hfetched : c.host.fetched = [])
    (hawaits : c.Awaits m.generation id) (polls : List InFlight) :
    c.settleBy polls =
        ({ c with
            host := { c.host with stage := c.host.stage.attach m.ticket.plugin }
            flights := .empty
            phase := .mounted id m.generation
            current := some ⟨m.ticket.plugin, true⟩ }, [.activated id], .settled) ∨
      (c.settleBy polls).2.2 = .waiting ∧ ¬c.flights.OutlastedBy polls := by
  have hawaits' : Awaits { c with
      host := { c.host with stage := c.host.stage.attach m.ticket.plugin }
      flights := .empty } m.generation id := hawaits
  have hflying : c.flights.isEmpty = false := by rw [hflights]; rfl
  rw [settleBy, if_neg (ne_true_of_eq_false hflying), hflights]
  rcases Headless.pollEach_push hfetched m polls with hsettled | ⟨hnone, hfew⟩
  · rw [hsettled]
    exact .inl (by simp only [settled_of_awaits_ok hawaits'])
  · refine .inr ⟨?_, fun houtlasted => ?_⟩
    · generalize (Flights.empty.push m).pollEach c.host polls = answer at hnone
      obtain ⟨host, flights, outcome⟩ := answer
      obtain rfl : outcome = none := hnone
      rfl
    · obtain ⟨hmore, hall⟩ := houtlasted
      have hsingle := hfew fun n hn => List.mem_singleton.1 (hall n hn)
      exact absurd hmore (Nat.not_lt.2 hsingle)

/-! ### Driven from a state -/

/-- What a container, driven from a state, has become together with its store. -/
structure Driven (c : Container Headless) (s : Snapshot)
    (after : Container Headless × MemoryStore) : Prop where
  rests : after.1.Rests after.2.snapshot
  plugin : after.1.phase.plugin? = c.registry.target s
  generation : after.1.generation =
    c.generation + if c.registry.target s = c.phase.plugin? then 0 else 1
  registry : after.1.registry = c.registry
  choices : s.SameChoices after.2.snapshot

theorem Rests.heard (h : c.Rests s) (htarget : c.registry.target s = c.phase.plugin?) :
    (c.heard s).Rests s :=
  rests_of_told h.up h.landed h.fetched h.lastError rfl (.refl s) htarget

/-- The container shows what it should already, and one round tells. -/
theorem Rests.endsWithin_again (h : c.Rests store.snapshot)
    (htarget : c.registry.target store.snapshot = c.phase.plugin?) (n : Nat) :
    EndsWithin (Driven c store.snapshot) (n + 1) (c, store) := by
  have hgeneration : c.generation = c.generation +
      if c.registry.target store.snapshot = c.phase.plugin? then 0 else 1 := by
    rw [if_pos htarget, Nat.add_zero]
  have hlanded : c.flights.toList = [] := by rw [h.landed]; rfl
  have hdeliver := onStateChange_eq c store.snapshot
  rw [if_pos htarget] at hdeliver
  by_cases hunheard : c.hears store.snapshot = false
  · rw [if_pos hunheard] at hdeliver
    exact endsWithin_of_landed (tell_eq hdeliver) hlanded
      ⟨h, htarget.symm, hgeneration, rfl, .refl _⟩
  · rw [if_neg hunheard] at hdeliver
    exact endsWithin_of_landed (tell_eq hdeliver) hlanded
      ⟨h.heard htarget, htarget.symm, hgeneration, rfl, .refl _⟩

/-- The later rounds change nothing any more. -/
theorem Driven.of_again {later : Container Headless} {after : Container Headless × MemoryStore}
    (h : Driven later s' after) (hagain : later.registry.target s' = later.phase.plugin?)
    (hchoices : s.SameChoices s') (hregistry : later.registry = c.registry)
    (hplugin : later.phase.plugin? = c.registry.target s)
    (hgeneration : later.generation =
      c.generation + if c.registry.target s = c.phase.plugin? then 0 else 1) :
    Driven c s after where
  rests := h.rests
  plugin := h.plugin.trans (hagain.trans hplugin)
  generation := by rw [h.generation, if_pos hagain, Nat.add_zero, hgeneration]
  registry := h.registry.trans hregistry
  choices := hchoices.trans h.choices

theorem target_confirmed {r : Registry} {id : PluginId} (h : r.target store.snapshot = some id) :
    r.target (store.dispatchAll [.activated id]).snapshot = some id ∧
      store.snapshot.SameChoices (store.dispatchAll [.activated id]).snapshot := by
  have hsnapshot : (store.dispatchAll [.activated id]).snapshot =
      store.snapshot.apply (.activated id) := store.snapshot_dispatch (.activated id)
  rw [hsnapshot]
  exact ⟨Registry.target_activated h, rfl, rfl, rfl⟩

/-- A container at rest, driven from any state, is at rest again after two rounds. -/
theorem Rests.endsWithin (h : c.Rests store.snapshot) :
    EndsWithin (Driven c store.snapshot) 2 (c, store) := by
  by_cases htarget : c.registry.target store.snapshot = c.phase.plugin?
  · exact h.endsWithin_again htarget 1
  · have hheard : c.hears store.snapshot = true := by
      cases hhears : c.hears store.snapshot with
      | true => rfl
      | false => exact absurd (h.target_of_unheard hhears) htarget
    have hgeneration : c.generation + 1 = c.generation +
        if c.registry.target store.snapshot = c.phase.plugin? then 0 else 1 := by
      rw [if_neg htarget]
    have hlanded : c.flights.toList = [] := by rw [h.landed]; rfl
    have hfetched : (release c.host c.current).fetched = [] :=
      (Headless.fetched_release c.host c.current).trans h.fetched
    have hout : Outcome c (.deliver store.snapshot) (c.onStateChange store.snapshot) :=
      step_outcome c (.deliver store.snapshot)
    generalize hafter : c.onStateChange store.snapshot = after at hout
    cases hout with
    | unheard hunheard => cases hheard.symm.trans hunheard
    | unmoved _ hunmoved => exact absurd hunmoved htarget
    | emptied _ hnone =>
      exact endsWithin_of_landed (tell_eq hafter) hlanded
        ⟨rests_of_told h.up h.landed hfetched rfl rfl (.refl _) hnone, hnone.symm, hgeneration,
          rfl, .refl _⟩
    | failed _ _ hmount => exact absurd hmount Headless.mount_not_failed
    | @took s d host i _ hsome hmount =>
      obtain ⟨-, hchoices⟩ := target_confirmed hsome
      have hhost : host.fetched = [] := (Headless.fetched_of_mount hmount).trans hfetched
      exact endsWithin_of_landed (tell_eq hafter) hlanded
        ⟨rests_of_told h.up h.landed hhost rfl rfl hchoices hsome, hsome.symm, hgeneration, rfl,
          hchoices⟩
    | @launched s d host t _ hsome hmount =>
      obtain ⟨hagain, hchoices⟩ := target_confirmed hsome
      have hhost : host.fetched = [] := (Headless.fetched_of_mount hmount).trans hfetched
      -- The round ends with the bundle attached; the next one brings the confirmation back.
      have hawaits : Awaits { c.cleared store.snapshot with
          host := host, phase := .mounting d.id (c.generation + 1),
          flights := c.flights.push ⟨c.generation + 1, t⟩ } (c.generation + 1) d.id := ⟨h.up, rfl⟩
      have hpush : c.flights.push ⟨c.generation + 1, t⟩ =
          Flights.empty.push ⟨c.generation + 1, t⟩ := by rw [h.landed]
      refine endsWithin_of_settled (tell_eq hafter) (settleBy_of_push hpush hhost hawaits) ?_
      refine (Rests.endsWithin_again ?_ hagain 0).mono (Nat.le_refl 1) fun after hdriven =>
        hdriven.of_again hagain hchoices rfl hsome.symm hgeneration
      exact rests_of_told h.up rfl hhost rfl rfl hchoices hsome

/-- The loop ends by itself, before its bound does. -/
theorem Rests.driven (h : c.Rests store.snapshot) (order : Flights.Order) :
    (∃ n ≤ 2, Drives n (c, store) (c.drive order store)) ∧
      Driven c store.snapshot (c.drive order store) := by
  rw [drive_eq]
  exact h.endsWithin.drives order (Nat.le_add_left 2 _)

end Container

end Dashboard
