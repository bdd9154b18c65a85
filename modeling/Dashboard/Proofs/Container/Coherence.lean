import Dashboard.Proofs.Container.Outcome

/-!
# The container's parts agree

Whatever the adapter does, the fields of a container that has run tell one story: an instance is
held exactly while a plugin is shown, the phase carries the newest generation, no two mounts in
flight belong to the same attempt, and the attempt that the container waits for is among them.
-/

namespace Dashboard

/-- The plugin that is showing. -/
def Phase.shown? : Phase → Option PluginId
  | mounted id _ => some id
  | _ => none

theorem Phase.eq_idle_of_plugin? {p : Phase} (h : p.plugin? = none) : p = .idle := by
  cases p with
  | idle => rfl
  | mounting id g => cases h
  | mounted id g => cases h

/-- Where mounts carry different labels, a label belongs to one mount. -/
theorem InFlight.eq_of_label {label : InFlight → Nat} {ms : List InFlight}
    (hdistinct : (ms.map label).Nodup) {m n : InFlight} (hm : m ∈ ms) (hn : n ∈ ms)
    (hlabel : label m = label n) : m = n := by
  induction ms with
  | nil => cases hm
  | cons o ms ih =>
    obtain ⟨ho, hrest⟩ := List.nodup_cons.1 hdistinct
    rcases List.mem_cons.1 hm with rfl | hmtail
    · rcases List.mem_cons.1 hn with rfl | hntail
      · rfl
      · exact (ho (List.mem_map.2 ⟨n, hntail, hlabel.symm⟩)).elim
    · rcases List.mem_cons.1 hn with rfl | hntail
      · exact (ho (List.mem_map.2 ⟨m, hmtail, hlabel⟩)).elim
      · exact ih hrest hmtail hntail

namespace Container

variable {H : Type}

/-- What holds between the fields of a container after any run. -/
structure Coherent (c : Container H) : Prop where
  shown : c.current.isSome = c.phase.shown?.isSome
  latest : ∀ g, c.phase.generation? = some g → g = c.generation
  issued : ∀ m ∈ c.flights.toList, m.generation ≤ c.generation
  distinct : (c.flights.toList.map InFlight.generation).Nodup
  attended : ∀ id g, c.phase = .mounting id g → ∃ m ∈ c.flights.toList, m.generation = g
  rested : c.tornDown = true → c.phase = .idle ∧ c.flights.toList = []

theorem coherent_new (registry : Registry) (host : H) (region : String) :
    (new registry host region).Coherent where
  shown := rfl
  latest _ h := nomatch h
  issued _ h := nomatch h
  distinct := List.nodup_nil
  attended _ _ h := nomatch h
  rested h := nomatch h

/-- Only the phase, the instance, the generation and the mounts in flight matter, and of those not
the order. -/
theorem Coherent.congr {c c' : Container H} (h : c.Coherent) (hcurrent : c'.current = c.current)
    (hphase : c'.phase = c.phase) (hgeneration : c'.generation = c.generation)
    (htornDown : c'.tornDown = c.tornDown) (hflights : c.flights.toList.Perm c'.flights.toList) :
    c'.Coherent where
  shown := by rw [hcurrent, hphase]; exact h.shown
  latest := by rw [hphase, hgeneration]; exact h.latest
  issued m hm := hgeneration ▸ h.issued m (hflights.mem_iff.2 hm)
  distinct := (hflights.map _).nodup_iff.1 h.distinct
  attended id g hg := by
    obtain ⟨m, hm, hmg⟩ := h.attended id g (hphase ▸ hg)
    exact ⟨m, hflights.mem_iff.1 hm, hmg⟩
  rested ht := by
    obtain ⟨hidle, hempty⟩ := h.rested (htornDown ▸ ht)
    exact ⟨hphase.trans hidle, List.Perm.nil_eq (hempty ▸ hflights) |>.symm⟩

/-- A container at rest has to answer for its mounts in flight only. -/
theorem coherent_of_idle {c : Container H} (hphase : c.phase = .idle) (hcurrent : c.current = none)
    (hissued : ∀ m ∈ c.flights.toList, m.generation ≤ c.generation)
    (hdistinct : (c.flights.toList.map InFlight.generation).Nodup)
    (hrested : c.tornDown = true → c.flights.toList = []) : c.Coherent where
  shown := by rw [hphase, hcurrent]; rfl
  latest g hg := by rw [hphase] at hg; cases hg
  issued := hissued
  distinct := hdistinct
  attended id g hg := by rw [hphase] at hg; cases hg
  rested ht := ⟨hphase, hrested ht⟩

theorem Coherent.issued_succ {c : Container H} (h : c.Coherent) :
    ∀ m ∈ c.flights.toList, m.generation ≤ c.generation + 1 :=
  fun m hm => Nat.le_succ_of_le (h.issued m hm)

theorem Coherent.up {c : Container H} (h : c.Coherent) (hphase : c.phase ≠ .idle) :
    c.tornDown = false := by
  cases ht : c.tornDown with
  | false => rfl
  | true => exact absurd (h.rested ht).1 hphase

/-- The mounts that stay in flight when one has settled. -/
theorem Coherent.settled {c : Container H} (h : c.Coherent) {m : InFlight} {flights : Flights}
    (hflights : c.flights.toList.Perm (m :: flights.toList)) :
    (∀ n ∈ flights.toList, n.generation ≤ c.generation) ∧
      (flights.toList.map InFlight.generation).Nodup := by
  constructor
  · intro n hn
    exact h.issued n (hflights.mem_iff.2 (List.mem_cons_of_mem m hn))
  · have hdistinct := (hflights.map InFlight.generation).nodup_iff.1 h.distinct
    exact (List.nodup_cons.1 hdistinct).2

theorem Coherent.eq_of_generation {c : Container H} (h : c.Coherent) {m n : InFlight}
    (hm : m ∈ c.flights.toList) (hn : n ∈ c.flights.toList)
    (hgeneration : m.generation = n.generation) : m = n :=
  InFlight.eq_of_label h.distinct hm hn hgeneration

theorem Coherent.current_eq_none {c : Container H} (h : c.Coherent)
    (hphase : c.phase.shown? = none) : c.current = none := by
  have hshown := h.shown
  rw [hphase] at hshown
  exact Option.isNone_iff_eq_none.1 (Option.isSome_eq_false_iff.1 hshown)

theorem tornDown_of_launch? {c : Container H} {s : Snapshot} {d : Descriptor}
    (h : c.launch? s = some d) : c.tornDown = false := by
  cases ht : c.tornDown with
  | false => rfl
  | true => simp [launch?, hears, ht] at h

theorem accepts_of_idle {c : Container H} (hphase : c.phase = .idle) (r : DeactivationRequest) :
    c.accepts r = false := by
  simp [accepts, hphase, Phase.generation?]

variable [Adapter H]

theorem Coherent.step {c : Container H} (h : c.Coherent) (e : Event H) : (c.step e).1.Coherent := by
  have hout := step_outcome c e
  generalize c.step e = after at hout
  cases hout with
  | unheard | absent | ignored | gone => exact h
  | unmoved | adapter | mailbox => exact h.congr rfl rfl rfl rfl (List.Perm.refl _)
  | unsettled hflights | woken hflights => exact h.congr rfl rfl rfl rfl hflights
  | emptied | failed | deactivated =>
    exact coherent_of_idle rfl rfl h.issued_succ h.distinct fun ht => (h.rested ht).2
  | ended => exact coherent_of_idle rfl rfl (fun _ hm => by cases hm) List.nodup_nil fun _ => rfl
  | took hlaunch =>
    have hup := tornDown_of_launch? hlaunch
    exact
      { shown := rfl
        latest := fun g hg => (Option.some.inj hg).symm
        issued := h.issued_succ
        distinct := h.distinct
        attended := fun _ _ hg => by cases hg
        rested := fun ht => by cases hup.symm.trans ht }
  | @launched s d host t hlaunch =>
    have hup := tornDown_of_launch? hlaunch
    have hpush := Flights.perm_push c.flights ⟨c.generation + 1, t⟩
    exact
      { shown := rfl
        latest := fun g hg => (Option.some.inj hg).symm
        issued := fun m hm => by
          rcases List.mem_cons.1 (hpush.mem_iff.1 hm) with rfl | hm
          · exact Nat.le_refl _
          · exact h.issued_succ m hm
        distinct := by
          refine (hpush.map _).nodup_iff.2 (List.nodup_cons.2 ⟨fun hmem => ?_, h.distinct⟩)
          obtain ⟨m, hm, hmg⟩ := List.mem_map.1 hmem
          have := h.issued m hm
          simp only at hmg
          omega
        attended := fun id g hg => by
          injection hg with _ hg
          exact ⟨_, hpush.mem_iff.2 List.mem_cons_self, hg⟩
        rested := fun ht => by cases hup.symm.trans ht }
  | @confirmed m host flights id i hflights hawaits =>
    exact
      { shown := rfl
        latest := fun g hg => h.latest g (by rw [hawaits.2]; exact hg)
        issued := (h.settled hflights).1
        distinct := (h.settled hflights).2
        attended := fun _ _ hg => by cases hg
        rested := fun ht => by cases hawaits.1.symm.trans ht }
  | @refused m host flights id e hflights hawaits =>
    exact coherent_of_idle rfl (h.current_eq_none (by rw [hawaits.2]; rfl)) (h.settled hflights).1
      (h.settled hflights).2 (fun ht => by cases hawaits.1.symm.trans ht)
  | @stale m host flights result hflights hawaits =>
    -- The mount that the container waits for is not the one that settled, so it is still in flight.
    have hkept : Coherent { c with host := host, flights := flights } :=
      { shown := h.shown
        latest := h.latest
        issued := (h.settled hflights).1
        distinct := (h.settled hflights).2
        attended := fun id g hg => by
          obtain ⟨n, hn, hng⟩ := h.attended id g hg
          rcases List.mem_cons.1 (hflights.mem_iff.1 hn) with rfl | hn
          · have hup : c.tornDown = false := h.up (by rw [hg]; simp)
            exact absurd ⟨hup, hng ▸ hg⟩ (hawaits id)
          · exact ⟨n, hn, hng⟩
        rested := fun ht => by
          have hempty := (h.rested ht).2
          rw [hempty] at hflights
          exact absurd hflights.nil_eq (by simp) }
    cases result with
    | ok i => exact hkept.congr rfl rfl rfl rfl (List.Perm.refl _)
    | error e => exact hkept

theorem Coherent.run {c : Container H} (h : c.Coherent) (es : List (Event H)) :
    (c.run es).Coherent := by
  induction es generalizing c with
  | nil => exact h
  | cons e es ih => exact ih (h.step e)

end Container

end Dashboard
