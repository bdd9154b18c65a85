import Dashboard.Proofs.Container.Tickets

/-!
# Containers that differ in superseded mounts

Two containers are twins when they agree in everything but what became of some mounts that were
superseded: these may be in flight still, or have settled and been detached. Twins stay twins
whatever happens to both of them, and also when one of them alone polls a superseded mount.
-/

namespace Dashboard

/-- The stages differ in what was attached of the given plugins at most. -/
structure Stage.AlikeBut (ids : PluginId → Prop) (s s' : Stage) : Prop where
  mounts : s.mounts = s'.mounts
  attachments : ∀ id, ¬ ids id → s.attachments.count id = s'.attachments.count id

namespace Stage

variable {ids : PluginId → Prop} {s s' s'' : Stage}

theorem AlikeBut.refl (ids : PluginId → Prop) (s : Stage) : s.AlikeBut ids s :=
  ⟨rfl, fun _ _ => rfl⟩

theorem AlikeBut.symm (h : s.AlikeBut ids s') : s'.AlikeBut ids s :=
  ⟨h.mounts.symm, fun id hid => (h.attachments id hid).symm⟩

theorem AlikeBut.trans (h : s.AlikeBut ids s') (h' : s'.AlikeBut ids s'') : s.AlikeBut ids s'' :=
  ⟨h.mounts.trans h'.mounts, fun id hid => (h.attachments id hid).trans (h'.attachments id hid)⟩

theorem AlikeBut.mono {ids' : PluginId → Prop} (h : s.AlikeBut ids s')
    (hids : ∀ id, ids id → ids' id) : s.AlikeBut ids' s' :=
  ⟨h.mounts, fun id hid => h.attachments id fun hi => hid (hids id hi)⟩

theorem AlikeBut.request (h : s.AlikeBut ids s') (id : PluginId) :
    (s.request id).AlikeBut ids (s'.request id) :=
  ⟨congrArg (· ++ [id]) h.mounts, h.attachments⟩

theorem AlikeBut.settles {id : PluginId} {result : MountResult} {after after' : Stage}
    (h : s.AlikeBut ids s') (hafter : s.Settles id result after)
    (hafter' : s'.Settles id result after') : after.AlikeBut ids after' := by
  cases result with
  | error e =>
    obtain rfl : after = s := hafter
    obtain rfl : after' = s' := hafter'
    exact h
  | ok i =>
    obtain ⟨-, rfl⟩ := hafter
    obtain ⟨-, rfl⟩ := hafter'
    refine ⟨h.mounts, fun other hother => ?_⟩
    simp only [attach, List.count_append, h.attachments other hother]

/-- A mount that settles changes nothing but what was attached of its plugin. -/
theorem Settles.alikeBut {id : PluginId} {result : MountResult} (h : s.Settles id result s') :
    s.AlikeBut (· = id) s' := by
  cases result with
  | error e =>
    obtain rfl : s' = s := h
    exact AlikeBut.refl _ _
  | ok i =>
    obtain ⟨-, rfl⟩ := h
    refine ⟨rfl, fun other hother => ?_⟩
    simp only [attach, List.count_append, List.count_singleton]
    rw [if_neg (by simpa using Ne.symm hother), Nat.add_zero]

theorem Settles.unit {id : PluginId} {i : Instance} (h : s.Settles id (.ok i) s') :
    i.live = true ∧ i.plugin ∈ s'.attached := by
  obtain ⟨rfl, rfl⟩ := h
  exact ⟨rfl, mem_attached_attach s id⟩

end Stage

namespace Container

open IndependentAdapter (nextKey AlikeBut)

variable {H : Type}

/-- The mount belongs to an attempt that was made and that the container does not wait for. -/
def Superseded (c : Container H) (m : InFlight) : Prop :=
  m.generation ≤ c.generation ∧ ∀ id, ¬ c.Awaits m.generation id

variable [Adapter H]

/-- Generations are not used again, so a mount that was superseded stays so. -/
theorem Superseded.step {c : Container H} {m : InFlight} (h : c.Superseded m) (e : Event H) :
    (c.step e).1.Superseded m := by
  have hout := step_outcome c e
  generalize c.step e = after at hout
  obtain ⟨hissued, hawaits⟩ := h
  cases hout with
  | stale => rename_i result _ _ _; cases result <;> exact ⟨hissued, hawaits⟩
  | emptied | took | failed | deactivated | ended =>
    exact ⟨Nat.le_succ_of_le hissued, fun id hid => by cases hid.2⟩
  | confirmed | refused => exact ⟨hissued, fun id hid => by cases hid.2⟩
  | launched =>
    refine ⟨Nat.le_succ_of_le hissued, fun id hid => ?_⟩
    have hgeneration : c.generation + 1 = m.generation := (Phase.mounting.inj hid.2).2
    omega
  | _ => exact ⟨hissued, hawaits⟩

theorem Superseded.run {c : Container H} {m : InFlight} (h : c.Superseded m)
    (es : List (Event H)) : (c.run es).Superseded m := by
  induction es generalizing c with
  | nil => exact h
  | cons e es ih => exact ih (h.step e)

/-! ### Twin adapters -/

variable [IndependentAdapter H]

/-- The adapters of two containers with the same mounts in flight, except for some that were
dropped. -/
structure Paired (dropped flights : List InFlight) (h h' : H) : Prop where
  alike : ∃ keys : Nat → Prop, AlikeBut keys h h' ∧ (∀ k, keys k → k < nextKey h) ∧
    ∀ m ∈ flights, m ∉ dropped → ¬ keys m.ticket.key
  stage : (Adapter.stage h).AlikeBut (fun id => ∃ m ∈ dropped, m.ticket.plugin = id)
    (Adapter.stage h')

section Paired

variable {dropped flights : List InFlight} {h h' : H}

theorem Paired.mono (hpaired : Paired dropped flights h h') {dropped' flights' : List InFlight}
    (hdropped : ∀ m ∈ dropped, m ∈ dropped')
    (hflights : ∀ m ∈ flights', m ∈ flights ∨ m ∈ dropped') : Paired dropped' flights' h h' where
  alike := by
    obtain ⟨keys, halike, hissued, hkept⟩ := hpaired.alike
    refine ⟨keys, halike, hissued, fun m hm hnot => ?_⟩
    exact hkept m ((hflights m hm).resolve_right hnot) fun hmem => hnot (hdropped m hmem)
  stage := hpaired.stage.mono fun _ ⟨m, hm, hid⟩ => ⟨m, hdropped m hm, hid⟩

theorem Paired.symm (hpaired : Paired dropped flights h h') : Paired dropped flights h' h where
  alike := by
    obtain ⟨keys, halike, hissued, hkept⟩ := hpaired.alike
    rw [IndependentAdapter.nextKey_eq halike] at hissued
    exact ⟨keys, IndependentAdapter.symm halike, hissued, hkept⟩
  stage := hpaired.stage.symm

theorem Paired.unmount [LawfulAdapter H] (hpaired : Paired dropped flights h h') {i : Instance}
    (hlive : i.live = true) (hattached : i.plugin ∈ (Adapter.stage h).attached)
    (hattached' : i.plugin ∈ (Adapter.stage h').attached) :
    Paired dropped flights (Adapter.unmount h i).1 (Adapter.unmount h' i).1 where
  alike := by
    obtain ⟨keys, halike, hissued, hkept⟩ := hpaired.alike
    have hleft := IndependentAdapter.unmount_self keys h i
    have hright := IndependentAdapter.unmount_self keys h' i
    rw [IndependentAdapter.nextKey_eq hleft] at hissued
    exact ⟨keys, IndependentAdapter.trans (IndependentAdapter.symm hleft)
      (IndependentAdapter.trans halike hright), hissued, hkept⟩
  stage := by
    rw [LawfulAdapter.unmount hlive hattached, LawfulAdapter.unmount hlive hattached']
    exact ⟨hpaired.stage.mounts, hpaired.stage.attachments⟩

/-- A mount that was not dropped is answered the same at both adapters. -/
theorem Paired.poll [LawfulAdapter H] (hpaired : Paired dropped flights h h') {m : InFlight}
    (hm : m ∈ flights) (hkeep : m ∉ dropped) {host host' : H} {progress progress' : Progress}
    (hpoll : Adapter.poll h m.ticket = (host, progress))
    (hpoll' : Adapter.poll h' m.ticket = (host', progress')) :
    progress = progress' ∧ Paired dropped flights host host' := by
  obtain ⟨keys, halike, hissued, hkept⟩ := hpaired.alike
  obtain ⟨hsame, halike'⟩ := IndependentAdapter.poll_alike halike (hkept m hm hkeep)
  rw [hpoll, hpoll'] at hsame halike'
  obtain rfl : progress = progress' := hsame
  rw [nextKey_of_poll hpoll] at hissued
  refine ⟨rfl, ⟨keys, halike', hissued, hkept⟩, ?_⟩
  cases progress with
  | settled result =>
    exact hpaired.stage.settles (LawfulAdapter.poll_settled hpoll)
      (LawfulAdapter.poll_settled hpoll')
  | waiting | yielded =>
    rw [LawfulAdapter.poll_unsettled hpoll (by simp), LawfulAdapter.poll_unsettled hpoll' (by simp)]
    exact hpaired.stage

/-- A new mount is answered the same at both adapters, under a key that was never given out. -/
theorem Paired.mount [LawfulAdapter H] (hpaired : Paired dropped flights h h') {ctx : MountContext}
    {host host' : H} {request request' : MountRequest}
    (hmount : Adapter.mount h ctx = (host, request))
    (hmount' : Adapter.mount h' ctx = (host', request')) {flights' : List InFlight}
    (hflights : ∀ m ∈ flights', m ∈ flights ∨ request = .pending m.ticket) :
    request = request' ∧ Paired dropped flights' host host' := by
  obtain ⟨keys, halike, hissued, hkept⟩ := hpaired.alike
  obtain ⟨hsame, halike'⟩ := IndependentAdapter.mount_alike ctx halike
  rw [hmount, hmount'] at hsame halike'
  obtain rfl : request = request' := hsame
  have hkeys := nextKey_of_mount hmount
  refine ⟨rfl, ⟨keys, halike', fun k hk => Nat.lt_of_lt_of_le (hissued k hk) hkeys, ?_⟩, ?_⟩
  · intro m hm hnot hkey
    rcases hflights m hm with hm | rfl
    · exact hkept m hm hnot hkey
    · -- The keys in which the adapters differ were given out, and this one is new.
      have hfresh := (IndependentAdapter.fresh hmount).1
      have hgiven := hissued _ hkey
      omega
  · cases request with
    | ready result =>
      exact (hpaired.stage.request ctx.plugin).settles (LawfulAdapter.mount_ready hmount)
        (LawfulAdapter.mount_ready hmount')
    | pending t =>
      rw [(LawfulAdapter.mount_pending hmount).2, (LawfulAdapter.mount_pending hmount').2]
      exact hpaired.stage.request ctx.plugin

theorem alikeBut_drain (h : H) (ms : List InFlight) :
    AlikeBut (fun k => ∃ m ∈ ms, m.ticket.key = k) h (drain h ms) := by
  induction ms generalizing h with
  | nil => exact IndependentAdapter.refl _ h
  | cons m ms ih =>
    have hfirst : AlikeBut (fun k => ∃ n ∈ m :: ms, n.ticket.key = k) h (drain h [m]) :=
      IndependentAdapter.mono (alikeBut_drain_singleton h m)
        fun k hk => ⟨m, List.mem_cons_self, hk.symm⟩
    have hrest : AlikeBut (fun k => ∃ n ∈ m :: ms, n.ticket.key = k) (drain h [m])
        (drain (drain h [m]) ms) :=
      IndependentAdapter.mono (ih (drain h [m]))
        fun k ⟨n, hn, hk⟩ => ⟨n, List.mem_cons_of_mem m hn, hk⟩
    rw [drain_cons]
    exact IndependentAdapter.trans hfirst hrest

end Paired

/-! ### Twin containers -/

/-- The containers agree in everything but some mounts that were dropped. -/
structure Twins (dropped : List InFlight) (c c' : Container H) : Prop where
  same : ∃ host flights, c' = { c with host := host, flights := flights }
  flights : ∀ m, m ∉ dropped → (m ∈ c.flights.toList ↔ m ∈ c'.flights.toList)
  paired : Paired dropped c.flights.toList c.host c'.host

/-- What happens at the adapter changes nothing on the stage, and it treats mounts alike whatever
became of others. -/
structure Event.Fair (e : Event H) : Prop where
  stage : e.KeepsStage
  keys : e.KeepsKeys
  apart : ∀ change, e = .adapter change →
    ∀ keys h h', AlikeBut keys h h' → AlikeBut keys (change h) (change h')

/-- Opening a gate is fair, and so is changing the script. -/
theorem fair_openGate (id : PluginId) (failure : Option String) :
    (Event.adapter fun h : Scripted => (h.openGate id failure).1).Fair where
  stage h := h.stage_openGate id failure
  keys h := Nat.le_of_eq (h.nextKey_openGate id failure).symm
  apart change hchange keys h h' halike := by
    obtain rfl := Event.adapter.inj hchange
    exact Scripted.AlikeBut.openGate halike id failure

variable {dropped : List InFlight} {c c' : Container H}

theorem Twins.refl (dropped : List InFlight) (c : Container H) : Twins dropped c c where
  same := ⟨c.host, c.flights, rfl⟩
  flights _ _ := Iff.rfl
  paired :=
    { alike := ⟨fun _ => False, IndependentAdapter.refl _ _, fun _ hk => hk.elim,
        fun _ _ _ hk => hk⟩
      stage := Stage.AlikeBut.refl _ _ }

theorem Twins.symm (h : Twins dropped c c') : Twins dropped c' c where
  same := by
    obtain ⟨host, flights, rfl⟩ := h.same
    exact ⟨c.host, c.flights, rfl⟩
  flights m hm := (h.flights m hm).symm
  paired := by
    refine h.paired.symm.mono (fun _ hm => hm) fun m hm => ?_
    by_cases hdropped : m ∈ dropped
    · exact .inr hdropped
    · exact .inl ((h.flights m hdropped).2 hm)

theorem Twins.mono (h : Twins dropped c c') {dropped' : List InFlight}
    (hdropped : ∀ m ∈ dropped, m ∈ dropped') : Twins dropped' c c' where
  same := h.same
  flights m hm := h.flights m fun hmem => hm (hdropped m hmem)
  paired := h.paired.mono hdropped fun _ hm => .inl hm

theorem Twins.superseded (h : Twins dropped c c') {m : InFlight} (hm : c.Superseded m) :
    c'.Superseded m := by
  obtain ⟨host, flights, rfl⟩ := h.same
  exact hm

/-- One of the two polls a mount, and the mount is dropped. -/
theorem Twins.replace (h : Twins dropped c c') (hc : c.Ticketed) {m : InFlight}
    (hm : m ∈ c.flights.toList) {host : H} {flights : Flights}
    (hflights : ∀ n, n ≠ m → (n ∈ flights.toList ↔ n ∈ c.flights.toList))
    (hhost : AlikeBut (· = m.ticket.key) c.host host)
    (hstage : (Adapter.stage c.host).AlikeBut (· = m.ticket.plugin) (Adapter.stage host)) :
    Twins (m :: dropped) { c with host := host, flights := flights } c' where
  same := by
    obtain ⟨host', flights', rfl⟩ := h.same
    exact ⟨host', flights', rfl⟩
  flights n hn := by
    have hne : n ≠ m := List.ne_of_not_mem_cons hn
    exact (hflights n hne).trans (h.flights n (List.not_mem_of_not_mem_cons hn))
  paired :=
    { alike := by
        obtain ⟨keys, halike, hissued, hkept⟩ := h.paired.alike
        have hkey := hc.issued m hm
        have hsame := IndependentAdapter.nextKey_eq hhost
        refine ⟨fun k => k = m.ticket.key ∨ keys k, ?_, ?_, ?_⟩
        · exact IndependentAdapter.trans
            (IndependentAdapter.symm (IndependentAdapter.mono hhost fun _ => .inl))
            (IndependentAdapter.mono halike fun _ => .inr)
        · rintro k (rfl | hk)
          · exact hsame ▸ hkey
          · exact hsame ▸ hissued k hk
        · intro n hn hnot hbad
          have hne : n ≠ m := List.ne_of_not_mem_cons hnot
          have hflight := (hflights n hne).1 hn
          -- Keys tell mounts apart, so no mount that stays has the key of the dropped one.
          rcases hbad with heq | hk
          · exact hne (hc.eq_of_key hflight hm heq)
          · exact hkept n hflight (List.not_mem_of_not_mem_cons hnot) hk
      stage := by
        refine Stage.AlikeBut.trans ?_ (h.paired.stage.mono ?_)
        · exact hstage.symm.mono fun id hid => ⟨m, List.mem_cons_self, hid.symm⟩
        · exact fun id ⟨n, hn, hid⟩ => ⟨n, List.mem_cons_of_mem m hn, hid⟩ }

variable [LawfulAdapter H]

/-- One of the two polls a superseded mount. -/
theorem Twins.look_superseded (h : Twins dropped c c') (hc : c.Ticketed) {m : InFlight}
    (hm : c.Superseded m) :
    Twins (m :: dropped) (c.step (.look m)).1 c' ∧ (c.step (.look m)).2 = [] := by
  by_cases hflight : m ∈ c.flights.toList
  · have hout := step_outcome c (.look m)
    generalize c.step (.look m) = after at hout
    have hpolled {host : H} {progress : Progress}
        (hpoll : Adapter.poll c.host m.ticket = (host, progress)) :
        AlikeBut (· = m.ticket.key) c.host host := by
      have hown := IndependentAdapter.poll_own c.host m.ticket
      rw [hpoll] at hown
      exact hown
    cases hout with
    | absent hm => exact absurd hflight hm
    | confirmed _ hawaits | refused _ hawaits => exact absurd hawaits (hm.2 _)
    | @stale _ host flights result hflights _ hpoll =>
      refine ⟨?_, rfl⟩
      have hothers := Flights.mem_iff_of_perm hflights
      have hsettles := LawfulAdapter.poll_settled hpoll
      cases result with
      | error e => exact h.replace hc hflight hothers (hpolled hpoll) hsettles.alikeBut
      | ok i =>
        obtain ⟨hlive, hattached⟩ := hsettles.unit
        refine h.replace hc hflight hothers ?_ (hsettles.alikeBut.trans ?_)
        · exact IndependentAdapter.trans (hpolled hpoll) (IndependentAdapter.unmount_self _ host i)
        · rw [LawfulAdapter.unmount hlive hattached]
          exact ⟨rfl, fun _ _ => rfl⟩
    | @unsettled _ host flights progress hflights hpoll hprogress =>
      refine ⟨h.replace hc hflight (fun n _ => hflights.mem_iff.symm) (hpolled hpoll) ?_, rfl⟩
      rw [LawfulAdapter.poll_unsettled hpoll hprogress]
      exact Stage.AlikeBut.refl _ _
  · rw [look_of_not_mem hflight]
    exact ⟨h.mono fun n hn => List.mem_cons_of_mem m hn, rfl⟩

/-! ### Both take a step -/

/-- Both take in the outcome of an attempt; what attached for it can be unmounted. -/
theorem Twins.settled (h : Twins dropped c c') {id : PluginId} {before before' : Stage}
    (generation : Nat) {result : MountResult}
    (hsettles : before.Settles id result (Adapter.stage c.host))
    (hsettles' : before'.Settles id result (Adapter.stage c'.host)) :
    Twins dropped (c.settled generation result).1 (c'.settled generation result).1 ∧
      (c.settled generation result).2 = (c'.settled generation result).2 := by
  obtain ⟨host', flights', rfl⟩ := h.same
  by_cases hawaits : ∃ id, c.Awaits generation id
  · obtain ⟨id, hawaits⟩ := hawaits
    have hawaits' : Awaits { c with host := host', flights := flights' } generation id := hawaits
    cases result with
    | ok i =>
      rw [settled_of_awaits_ok hawaits, settled_of_awaits_ok hawaits']
      exact ⟨⟨⟨host', flights', rfl⟩, h.flights, h.paired⟩, rfl⟩
    | error e =>
      rw [settled_of_awaits_error hawaits, settled_of_awaits_error hawaits']
      exact ⟨⟨⟨host', flights', rfl⟩, h.flights, h.paired⟩, rfl⟩
  · have hstale : ∀ id, ¬ c.Awaits generation id := fun id hid => hawaits ⟨id, hid⟩
    have hstale' : ∀ id, ¬ Awaits { c with host := host', flights := flights' } generation id :=
      hstale
    rw [settled_of_not_awaits result hstale, settled_of_not_awaits result hstale']
    cases result with
    | ok i =>
      obtain ⟨hlive, hattached⟩ := hsettles.unit
      have hpaired := h.paired.unmount hlive hattached hsettles'.unit.2
      exact ⟨⟨⟨_, flights', rfl⟩, h.flights, hpaired⟩, rfl⟩
    | error e => exact ⟨h, rfl⟩

/-- Both poll a mount that was not dropped. -/
theorem Twins.look (h : Twins dropped c c') (hc : c.Ticketed) (hc' : c'.Ticketed) {m : InFlight}
    (hm : m ∉ dropped) :
    Twins dropped (c.step (.look m)).1 (c'.step (.look m)).1 ∧
      (c.step (.look m)).2 = (c'.step (.look m)).2 := by
  have hboth := h.flights m hm
  by_cases hflight : m ∈ c.flights.toList
  · have hflight' := hboth.1 hflight
    rcases hpoll : Adapter.poll c.host m.ticket with ⟨host, progress⟩
    rcases hpoll' : Adapter.poll c'.host m.ticket with ⟨host', progress'⟩
    obtain ⟨rfl, hpaired⟩ := h.paired.poll hflight hm hpoll hpoll'
    have hremove := Flights.perm_remove hflight
    have hremove' := Flights.perm_remove hflight'
    have hpolled {flights flights' : Flights}
        (hflights : ∀ n, n ∉ dropped → (n ∈ flights.toList ↔ n ∈ flights'.toList))
        (hsub : ∀ n ∈ flights.toList, n ∈ c.flights.toList) :
        Twins dropped { c with host := host, flights := flights }
          { c' with host := host', flights := flights' } := by
      obtain ⟨_, _, rfl⟩ := h.same
      exact ⟨⟨host', flights', rfl⟩, hflights,
        hpaired.mono (fun _ hn => hn) fun n hn => .inl (hsub n hn)⟩
    have hunsettled {flights flights' : Flights} (hflights : flights.toList.Perm c.flights.toList)
        (hflights' : flights'.toList.Perm c'.flights.toList) :
        Twins dropped { c with host := host, flights := flights }
          { c' with host := host', flights := flights' } := by
      refine hpolled (fun n hn => ?_) fun n hn => hflights.mem_iff.1 hn
      rw [hflights.mem_iff, hflights'.mem_iff]
      exact h.flights n hn
    simp only [step, Container.look, hflight, hflight', if_true, hpoll, hpoll']
    cases progress with
    | settled result =>
      refine (hpolled (fun n hn => ?_) fun n hn => ?_).settled m.generation
        (LawfulAdapter.poll_settled hpoll) (LawfulAdapter.poll_settled hpoll')
      · by_cases heq : n = m
        · subst heq
          exact iff_of_false (hc.not_mem_of_perm hremove) (hc'.not_mem_of_perm hremove')
        · rw [Flights.mem_iff_of_perm hremove n heq, Flights.mem_iff_of_perm hremove' n heq]
          exact h.flights n hn
      · exact hremove.mem_iff.2 (List.mem_cons_of_mem m hn)
    | waiting =>
      exact ⟨hunsettled ((Flights.perm_sleep _ m).trans hremove.symm)
        ((Flights.perm_sleep _ m).trans hremove'.symm), rfl⟩
    | yielded =>
      exact ⟨hunsettled ((Flights.perm_push _ m).trans hremove.symm)
        ((Flights.perm_push _ m).trans hremove'.symm), rfl⟩
  · have hflight' : m ∉ c'.flights.toList := fun hmem => hflight (hboth.2 hmem)
    rw [look_of_not_mem hflight, look_of_not_mem hflight']
    exact ⟨h, rfl⟩

/-- Both unmount what is showing. -/
theorem Twins.paired_release (h : Twins dropped c c') (hc : c.Tidy) (hc' : c'.Tidy) :
    Paired dropped c.flights.toList (release c.host c.current) (release c'.host c'.current) := by
  have hattached := hc.stage.attached
  have hattached' := hc'.stage.attached
  have hheld := hc.held
  have hlive := hc.live
  obtain ⟨host', flights', rfl⟩ := h.same
  cases hcurrent : c.current with
  | none =>
    simp only [release]
    exact h.paired
  | some i =>
    rw [hcurrent] at hheld
    rw [← hheld] at hattached hattached'
    simp only [release]
    refine h.paired.unmount (hlive i hcurrent) ?_ ?_
    · rw [hattached]
      exact List.mem_singleton.2 rfl
    · rw [hattached']
      exact List.mem_singleton.2 rfl

/-- Both ask for a mount of a plugin, and take in the answer. -/
theorem Twins.startMount (h : Twins dropped c c') (d : Descriptor) :
    Twins dropped (c.startMount d).1 (c'.startMount d).1 ∧
      (c.startMount d).2 = (c'.startMount d).2 := by
  obtain ⟨host', flights', rfl⟩ := h.same
  rcases hmount : Adapter.mount c.host (c.mountContext d) with ⟨host, request⟩
  rcases hmount' : Adapter.mount host' (c.mountContext d) with ⟨host'', request'⟩
  have hctx : mountContext { c with host := host', flights := flights' } d = c.mountContext d := rfl
  rw [startMount_eq, startMount_eq, hctx]
  simp only [hmount, hmount']
  cases request with
  | ready result =>
    have hflights : ∀ m ∈ c.flights.toList,
        m ∈ c.flights.toList ∨ MountRequest.ready result = .pending m.ticket := fun _ => .inl
    obtain ⟨rfl, hpaired⟩ := h.paired.mount hmount hmount' hflights
    have hasked : Twins dropped { c with host := host, phase := .mounting d.id c.generation }
        { c with host := host'', flights := flights', phase := .mounting d.id c.generation } :=
      ⟨⟨host'', flights', rfl⟩, h.flights, hpaired⟩
    exact hasked.settled c.generation (LawfulAdapter.mount_ready hmount)
      (LawfulAdapter.mount_ready hmount')
  | pending t =>
    have hpush := Flights.perm_push c.flights ⟨c.generation, t⟩
    have hpush' := Flights.perm_push flights' ⟨c.generation, t⟩
    have hflights : ∀ m ∈ (c.flights.push ⟨c.generation, t⟩).toList,
        m ∈ c.flights.toList ∨ MountRequest.pending t = .pending m.ticket := by
      intro m hm
      rcases List.mem_cons.1 (hpush.mem_iff.1 hm) with rfl | hm
      · exact .inr rfl
      · exact .inl hm
    obtain ⟨rfl, hpaired⟩ := h.paired.mount hmount hmount' hflights
    refine ⟨⟨⟨host'', _, rfl⟩, fun m hm => ?_, hpaired⟩, rfl⟩
    rw [hpush.mem_iff, hpush'.mem_iff, List.mem_cons, List.mem_cons, h.flights m hm]

/-- Both hear of a state of the store. -/
theorem Twins.deliver (h : Twins dropped c c') (hc : c.Tidy) (hc' : c'.Tidy) (s : Snapshot) :
    Twins dropped (c.step (.deliver s)).1 (c'.step (.deliver s)).1 ∧
      (c.step (.deliver s)).2 = (c'.step (.deliver s)).2 := by
  have hreleased := h.paired_release hc hc'
  obtain ⟨host', flights', rfl⟩ := h.same
  simp only [step]
  rw [onStateChange_eq, onStateChange_eq]
  have hhears : hears { c with host := host', flights := flights' } s = c.hears s := rfl
  simp only [hhears]
  by_cases hheard : c.hears s = false
  · simp only [if_pos hheard]
    exact ⟨h, trivial⟩
  · simp only [if_neg hheard]
    by_cases htarget : c.registry.target s = c.phase.plugin?
    · simp only [if_pos htarget]
      exact ⟨⟨⟨host', flights', rfl⟩, h.flights, h.paired⟩, trivial⟩
    · simp only [if_neg htarget]
      rw [activate_eq, activate_eq]
      have hvacated : Twins dropped (c.heard s).vacated
          (heard { c with host := host', flights := flights' } s).vacated :=
        ⟨⟨_, flights', rfl⟩, h.flights, hreleased⟩
      have hregistry : (heard { c with host := host', flights := flights' } s).registry =
        (c.heard s).registry := rfl
      rw [hregistry]
      cases (c.registry.target s).bind (c.heard s).registry.get? with
      | none => exact ⟨⟨⟨_, flights', rfl⟩, h.flights, hreleased⟩, rfl⟩
      | some d => exact hvacated.startMount d

omit [LawfulAdapter H] in
/-- The mounts of a plugin that none was dropped of are in flight on both sides, as finished on one
as on the other. -/
theorem Twins.count_arrivals_eq (h : Twins dropped c c') (hc : c.Ticketed) (hc' : c'.Ticketed)
    {id : PluginId} (hid : ¬ ∃ m ∈ dropped, m.ticket.plugin = id) :
    (arrivals c.host c.flights.toList).count id =
      (arrivals c'.host c'.flights.toList).count id := by
  obtain ⟨keys, halike, -, hkept⟩ := h.paired.alike
  have hplugin {m : InFlight} (hm : (m.ticket.plugin == id) = true) : m ∉ dropped :=
    fun hmem => hid ⟨m, hmem, beq_iff_eq.1 hm⟩
  have hperm : (c.flights.toList.filter fun m => m.ticket.plugin == id).Perm
      (c'.flights.toList.filter fun m => m.ticket.plugin == id) := by
    refine (List.perm_ext_iff_of_nodup (hc.nodup.filter _) (hc'.nodup.filter _)).2 fun m => ?_
    rw [List.mem_filter, List.mem_filter]
    constructor
    · exact fun hm => ⟨(h.flights m (hplugin hm.2)).1 hm.1, hm.2⟩
    · exact fun hm => ⟨(h.flights m (hplugin hm.2)).2 hm.1, hm.2⟩
  have hfinished : (c.flights.toList.filter fun m => m.ticket.plugin == id).countP
        (finished c.host) =
      (c.flights.toList.filter fun m => m.ticket.plugin == id).countP (finished c'.host) := by
    refine List.countP_congr fun m hm => ?_
    obtain ⟨hflight, hm⟩ := List.mem_filter.1 hm
    rw [finished_eq halike (hkept m hflight (hplugin hm))]
  rw [count_arrivals, count_arrivals, hfinished, hperm.countP_eq]

/-- Both end their mounts in flight, each in an order of its own. -/
theorem Twins.paired_drain (h : Twins dropped c c') (hc : c.Ticketed) (hc' : c'.Ticketed)
    {ms ms' : List InFlight} (hms : ms.Perm c.flights.toList) (hms' : ms'.Perm c'.flights.toList) :
    Paired dropped [] (drain c.host ms) (drain c'.host ms') := by
  obtain ⟨keys, halike, hissued, hkept⟩ := h.paired.alike
  have hleft := alikeBut_drain c.host ms
  have hright := alikeBut_drain c'.host ms'
  have hpassed := passed_drain c.host (hc.distinct_of_perm hms)
  have hpassed' := passed_drain c'.host (hc'.distinct_of_perm hms')
  have hsame := IndependentAdapter.nextKey_eq halike
  have hdrained := IndependentAdapter.nextKey_eq hleft
  constructor
  · refine ⟨fun k => (∃ m ∈ ms, m.ticket.key = k) ∨ keys k ∨ ∃ m ∈ ms', m.ticket.key = k,
      ?_, ?_, fun _ hm => nomatch hm⟩
    · refine IndependentAdapter.trans
        (IndependentAdapter.symm (IndependentAdapter.mono hleft fun _ => .inl))
        (IndependentAdapter.trans (IndependentAdapter.mono halike fun _ hk => .inr (.inl hk))
          (IndependentAdapter.mono hright fun _ hk => .inr (.inr hk)))
    · rw [← hdrained]
      rintro k (⟨m, hm, rfl⟩ | hk | ⟨m, hm, rfl⟩)
      · exact hc.issued m (hms.mem_iff.1 hm)
      · exact hissued k hk
      · exact hsame ▸ hc'.issued m (hms'.mem_iff.1 hm)
  · refine ⟨?_, fun id hid => ?_⟩
    · rw [hpassed.mounts, hpassed'.mounts, h.paired.stage.mounts]
    · rw [hpassed.attachments, hpassed'.attachments, List.count_append, List.count_append,
        h.paired.stage.attachments id hid, (perm_arrivals _ hms).count_eq,
        (perm_arrivals _ hms').count_eq, h.count_arrivals_eq hc hc' hid]

/-- Whatever happens to both, twins stay twins, and they dispatch the same. -/
theorem Twins.step (h : Twins dropped c c') (hc : c.Sound) (hc' : c'.Sound)
    (hdropped : ∀ m ∈ dropped, c.Superseded m) {e : Event H} (he : e.Fair) :
    Twins dropped (c.step e).1 (c'.step e).1 ∧ (c.step e).2 = (c'.step e).2 := by
  cases e with
  | deliver s => exact h.deliver hc.tidy hc'.tidy s
  | look m =>
    by_cases hm : m ∈ dropped
    · -- It may be in flight on one side only, so the two polls are taken one at a time.
      obtain ⟨hleft, hsaid⟩ := h.look_superseded hc.ticketed (hdropped m hm)
      have hm' := hleft.superseded ((hdropped m hm).step (.look m))
      obtain ⟨hright, hsaid'⟩ := hleft.symm.look_superseded hc'.ticketed hm'
      refine ⟨hright.symm.mono fun n hn => ?_, hsaid.trans hsaid'.symm⟩
      simp only [List.mem_cons] at hn
      rcases hn with rfl | rfl | hn
      · exact hm
      · exact hm
      · exact hn
    · exact h.look hc.ticketed hc'.ticketed hm
  | wake key =>
    obtain ⟨host', flights', rfl⟩ := h.same
    have hwake := Flights.perm_wake c.flights key
    have hwake' := Flights.perm_wake flights' key
    refine ⟨⟨⟨host', _, rfl⟩, fun m hm => ?_, h.paired.mono (fun _ hm => hm) fun m hm => ?_⟩, rfl⟩
    · exact hwake.mem_iff.trans ((h.flights m hm).trans hwake'.mem_iff.symm)
    · exact .inl (hwake.mem_iff.1 hm)
  | adapter change =>
    obtain ⟨host', flights', rfl⟩ := h.same
    obtain ⟨keys, halike, hissued, hkept⟩ := h.paired.alike
    have halike' := he.apart change rfl keys _ _ halike
    have hkeys : nextKey c.host ≤ nextKey (change c.host) := he.keys c.host
    have hstage : ∀ h, Adapter.stage (change h) = Adapter.stage h := he.stage
    refine ⟨⟨⟨_, flights', rfl⟩, h.flights, ⟨keys, halike', fun k hk => ?_, hkept⟩, ?_⟩, rfl⟩
    · exact Nat.lt_of_lt_of_le (hissued k hk) hkeys
    · simp only [Container.step, hstage]
      exact h.paired.stage
  | mailbox m =>
    obtain ⟨host', flights', rfl⟩ := h.same
    exact ⟨⟨⟨host', flights', rfl⟩, h.flights, h.paired⟩, rfl⟩
  | deactivate r =>
    have hreleased := h.paired_release hc.tidy hc'.tidy
    obtain ⟨host', flights', rfl⟩ := h.same
    have haccepts : accepts { c with host := host', flights := flights' } r = c.accepts r := rfl
    simp only [Container.step, onDeactivated_eq, haccepts]
    cases c.accepts r with
    | true => exact ⟨⟨⟨_, flights', rfl⟩, h.flights, hreleased⟩, trivial⟩
    | false => exact ⟨h, trivial⟩
  | teardown order =>
    have hdrained := h.paired_drain hc.ticketed hc'.ticketed (order.handed_perm c.flights)
      (order.handed_perm c'.flights)
    have htidy := hc.tidy.drained (order.handed c.flights)
    have htidy' := hc'.tidy.drained (order.handed c'.flights)
    obtain ⟨host', flights', rfl⟩ := h.same
    simp only [Container.step, teardown_eq]
    by_cases hgone : c.tornDown = true
    · simp only [if_pos hgone]
      exact ⟨h, trivial⟩
    · simp only [if_neg hgone]
      have hended : Twins dropped
          { c with host := drain c.host (order.handed c.flights), flights := .empty }
          { c with host := drain host' (order.handed flights'), flights := .empty } :=
        ⟨⟨_, .empty, rfl⟩, fun _ _ => Iff.rfl, hdrained⟩
      exact ⟨⟨⟨_, .empty, rfl⟩, fun _ _ => Iff.rfl, hended.paired_release htidy htidy'⟩, trivial⟩

end Container

end Dashboard
