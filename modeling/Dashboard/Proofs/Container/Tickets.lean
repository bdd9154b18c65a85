import Dashboard.Proofs.Container.Attachment
import Dashboard.Proofs.Host.Independent

/-!
# The tickets of mounts in flight

Over an independent adapter the mounts in flight have different keys, so that polling one of them
leaves the others as they are. What a drain attaches is then known before it starts: a unit for each
mount that has finished by then, and nothing for the others.
-/

namespace Dashboard

/-- Whether a mount has just attached its unit. -/
def Progress.attaches : Progress → Bool
  | .settled (.ok _) => true
  | _ => false

namespace Container

open IndependentAdapter (nextKey AlikeBut)

variable {H : Type} [Adapter H]

/-! ### Finished mounts -/

/-- Whether a mount in flight would attach a unit if it was polled now. -/
def finished (h : H) (m : InFlight) : Bool := (Adapter.poll h m.ticket).2.attaches

/-- The plugins of the mounts that have finished. -/
def arrivals (h : H) (ms : List InFlight) : List PluginId :=
  (ms.filter (finished h)).map fun m => m.ticket.plugin

theorem perm_arrivals (h : H) {ms ms' : List InFlight} (hms : ms.Perm ms') :
    (arrivals h ms).Perm (arrivals h ms') := (hms.filter _).map _

theorem count_arrivals (h : H) (ms : List InFlight) (id : PluginId) :
    (arrivals h ms).count id =
      (ms.filter fun m => m.ticket.plugin == id).countP (finished h) := by
  rw [arrivals, List.count_eq_countP, List.countP_map, List.countP_filter, List.countP_filter]
  exact List.countP_congr fun m _ => by simp [and_comm]

theorem drain_cons (h : H) (m : InFlight) (ms : List InFlight) :
    drain h (m :: ms) = drain (drain h [m]) ms := by
  simp only [drain]
  split <;> rfl

theorem passed_drain_singleton [LawfulAdapter H] (h : H) (m : InFlight) :
    (Adapter.stage h).Passed (arrivals h [m]) (Adapter.stage (drain h [m])) := by
  rcases hpoll : Adapter.poll h m.ticket with ⟨host, progress⟩
  have hgivenUp (hprogress : ∀ result, progress ≠ .settled result) :
      (Adapter.stage h).Passed [] (Adapter.stage (Adapter.cancel host m.ticket)) := by
    rw [LawfulAdapter.cancel, LawfulAdapter.poll_unsettled hpoll hprogress]
    exact Stage.Passed.refl _
  have hfinished : finished h m = progress.attaches := by rw [finished, hpoll]
  simp only [drain, arrivals, List.filter_cons, hfinished, hpoll]
  cases progress with
  | settled result =>
    have hsettles := LawfulAdapter.poll_settled hpoll
    cases result with
    | ok i =>
      obtain ⟨rfl, hstage⟩ := hsettles
      have hattached : m.ticket.plugin ∈ (Adapter.stage host).attached :=
        hstage ▸ Stage.mem_attached_attach _ _
      have hunmounted := LawfulAdapter.unmount (i := ⟨m.ticket.plugin, true⟩) rfl hattached
      rw [hunmounted, hstage]
      exact ⟨rfl, rfl, rfl⟩
    | error e =>
      have hstage : Adapter.stage host = Adapter.stage h := hsettles
      simp only [hstage]
      exact Stage.Passed.refl _
  | waiting => exact hgivenUp (by simp)
  | yielded => exact hgivenUp (by simp)

/-! ### Keys -/

variable [IndependentAdapter H]

/-- What happens at the adapter does not make it forget the keys that it gave out. -/
def Event.KeepsKeys : Event H → Prop
  | .adapter change => ∀ h, nextKey h ≤ nextKey (change h)
  | _ => True

/-- No two mounts in flight have one key, and the adapter gives out none of their keys again. -/
structure Ticketed (c : Container H) : Prop where
  issued : ∀ m ∈ c.flights.toList, m.ticket.key < nextKey c.host
  distinct : (c.flights.toList.map fun m => m.ticket.key).Nodup

theorem ticketed_new (registry : Registry) (host : H) (region : String) :
    (new registry host region).Ticketed where
  issued _ hm := nomatch hm
  distinct := List.nodup_nil

theorem Ticketed.congr {c c' : Container H} (h : c.Ticketed) (gone : List InFlight)
    (hflights : c.flights.toList.Perm (gone ++ c'.flights.toList))
    (hkeys : nextKey c.host ≤ nextKey c'.host) : c'.Ticketed where
  issued m hm := by
    have hbefore := h.issued m (hflights.mem_iff.2 (List.mem_append_right gone hm))
    omega
  distinct := by
    have hdistinct := (hflights.map fun m => m.ticket.key).nodup_iff.1 h.distinct
    rw [List.map_append] at hdistinct
    exact (List.nodup_append.1 hdistinct).2.1

theorem Ticketed.eq_of_key {c : Container H} (h : c.Ticketed) {m n : InFlight}
    (hm : m ∈ c.flights.toList) (hn : n ∈ c.flights.toList)
    (hkey : m.ticket.key = n.ticket.key) : m = n :=
  InFlight.eq_of_label h.distinct hm hn hkey

theorem Ticketed.nodup {c : Container H} (h : c.Ticketed) : c.flights.toList.Nodup :=
  (List.pairwise_map.1 h.distinct).imp fun hkey heq => hkey (congrArg (·.ticket.key) heq)

theorem Ticketed.distinct_of_perm {c : Container H} (h : c.Ticketed) {ms : List InFlight}
    (hms : ms.Perm c.flights.toList) : (ms.map fun m => m.ticket.key).Nodup :=
  (hms.map _).nodup_iff.2 h.distinct

theorem Ticketed.not_mem_of_perm {c : Container H} (h : c.Ticketed) {m : InFlight}
    {ns : List InFlight} (hflights : c.flights.toList.Perm (m :: ns)) : m ∉ ns :=
  (List.nodup_cons.1 (hflights.nodup_iff.1 h.nodup)).1

/-! ### The adapter's keys -/

theorem nextKey_release (h : H) (current : Option Instance) :
    nextKey h = nextKey (release h current) := by
  cases current with
  | none => rfl
  | some i => exact IndependentAdapter.nextKey_eq (IndependentAdapter.unmount h i)

theorem nextKey_of_mount {h host : H} {ctx : MountContext} {request : MountRequest}
    (hmount : Adapter.mount h ctx = (host, request)) : nextKey h ≤ nextKey host := by
  have hkeys := IndependentAdapter.nextKey_mount h ctx
  rw [hmount] at hkeys
  exact hkeys

theorem nextKey_of_poll {h host : H} {t : Ticket} {progress : Progress}
    (hpoll : Adapter.poll h t = (host, progress)) : nextKey h = nextKey host := by
  have hkeys := IndependentAdapter.nextKey_eq (IndependentAdapter.poll_own h t)
  rw [hpoll] at hkeys
  exact hkeys

theorem Ticketed.step {c : Container H} (h : c.Ticketed) {e : Event H} (he : e.KeepsKeys) :
    (c.step e).1.Ticketed := by
  have hout := step_outcome c e
  generalize c.step e = after at hout
  have hreleased := nextKey_release c.host c.current
  cases hout with
  | unheard | absent | ignored | gone => exact h
  | unmoved | mailbox => exact h.congr [] (List.Perm.refl _) (Nat.le_refl _)
  | emptied | deactivated =>
    exact h.congr [] (List.Perm.refl _) (Nat.le_of_eq hreleased)
  | took _ _ hmount | failed _ _ hmount =>
    have hkeys := nextKey_of_mount hmount
    exact h.congr [] (List.Perm.refl _) (hreleased ▸ hkeys)
  | @launched s d host t hlaunch htarget hmount =>
    obtain ⟨hfresh, hgiven⟩ := IndependentAdapter.fresh hmount
    have hkeys : nextKey c.host ≤ t.key := hreleased ▸ hfresh
    have hpush := Flights.perm_push c.flights ⟨c.generation + 1, t⟩
    constructor
    · intro m hm
      rcases List.mem_cons.1 (hpush.mem_iff.1 hm) with rfl | hm
      · exact hgiven
      · have hbefore := h.issued m hm
        change m.ticket.key < nextKey host
        omega
    · refine (hpush.map _).nodup_iff.2 (List.nodup_cons.2 ⟨fun hmem => ?_, h.distinct⟩)
      obtain ⟨m, hm, hkey⟩ := List.mem_map.1 hmem
      have hbefore := h.issued m hm
      simp only at hkey
      omega
  | confirmed hflights _ hpoll | refused hflights _ hpoll =>
    exact h.congr [_] hflights (Nat.le_of_eq (nextKey_of_poll hpoll))
  | @stale m host flights result hflights _ hpoll =>
    have hkept : Ticketed { c with host := host, flights := flights } :=
      h.congr [m] hflights (Nat.le_of_eq (nextKey_of_poll hpoll))
    cases result with
    | ok i =>
      exact hkept.congr [] (List.Perm.refl _)
        (Nat.le_of_eq (nextKey_release host (some i)))
    | error e => exact hkept
  | unsettled hflights hpoll =>
    exact h.congr [] hflights (Nat.le_of_eq (nextKey_of_poll hpoll))
  | woken hflights => exact h.congr [] hflights (Nat.le_refl _)
  | adapter change => exact h.congr [] (List.Perm.refl _) (he c.host)
  | ended =>
    constructor
    · intro m hm
      cases hm
    · exact List.nodup_nil

theorem Ticketed.run {c : Container H} (h : c.Ticketed) {es : List (Event H)}
    (hes : ∀ e ∈ es, e.KeepsKeys) : (c.run es).Ticketed := by
  induction es generalizing c with
  | nil => exact h
  | cons e es ih =>
    exact ih (h.step (hes e List.mem_cons_self)) fun e' he' => hes e' (List.mem_cons_of_mem e he')

/-! ### What a drain attaches -/

theorem finished_eq {keys : Nat → Prop} {h h' : H} {m : InFlight} (halike : AlikeBut keys h h')
    (hm : ¬ keys m.ticket.key) : finished h m = finished h' m := by
  unfold finished
  rw [(IndependentAdapter.poll_alike halike hm).1]

/-- Ending one mount leaves the others alone. -/
theorem alikeBut_drain_singleton (h : H) (m : InFlight) :
    AlikeBut (· = m.ticket.key) h (drain h [m]) := by
  have hpolled := IndependentAdapter.poll_own h m.ticket
  rcases hpoll : Adapter.poll h m.ticket with ⟨host, progress⟩
  rw [hpoll] at hpolled
  have hcancelled : AlikeBut (· = m.ticket.key) h (Adapter.cancel host m.ticket) :=
    IndependentAdapter.trans hpolled (IndependentAdapter.cancel_own host m.ticket)
  simp only [drain, hpoll]
  cases progress with
  | settled result =>
    cases result with
    | ok i => exact IndependentAdapter.trans hpolled (IndependentAdapter.unmount_self _ host i)
    | error e => exact hpolled
  | waiting => exact hcancelled
  | yielded => exact hcancelled

theorem arrivals_congr {keys : Nat → Prop} {h h' : H} {ms : List InFlight}
    (halike : AlikeBut keys h h') (hms : ∀ m ∈ ms, ¬ keys m.ticket.key) :
    arrivals h ms = arrivals h' ms := by
  unfold arrivals
  rw [List.filter_congr fun m hm => finished_eq halike (hms m hm)]

/-! ### Containers that have run -/

/-- What a container is after any run. -/
structure Sound (c : Container H) : Prop where
  coherent : c.Coherent
  tidy : c.Tidy
  ticketed : c.Ticketed

theorem sound_new (registry : Registry) (host : H) (region : String)
    (hhost : Adapter.stage host = .empty) : (new registry host region).Sound :=
  ⟨coherent_new registry host region, tidy_new registry host region hhost,
    ticketed_new registry host region⟩

variable [LawfulAdapter H]

/-- A drain attaches and detaches one unit for each mount that has finished before it. -/
theorem passed_drain (h : H) {ms : List InFlight}
    (hdistinct : (ms.map fun m => m.ticket.key).Nodup) :
    (Adapter.stage h).Passed (arrivals h ms) (Adapter.stage (drain h ms)) := by
  induction ms generalizing h with
  | nil => exact Stage.Passed.refl _
  | cons m ms ih =>
    obtain ⟨hm, hms⟩ := List.nodup_cons.1 hdistinct
    -- The mounts that are left to drain have other keys, so they are as finished as before.
    have hrest : arrivals (drain h [m]) ms = arrivals h ms := by
      refine (arrivals_congr (alikeBut_drain_singleton h m) fun n hn heq => ?_).symm
      exact hm (List.mem_map.2 ⟨n, hn, heq⟩)
    have hcons : arrivals h (m :: ms) = arrivals h [m] ++ arrivals h ms := by
      rw [arrivals, arrivals, arrivals, ← List.map_append, ← List.filter_append]
      rfl
    rw [drain_cons, hcons, ← hrest]
    exact (passed_drain_singleton h m).trans (ih _ hms)

theorem Sound.step {c : Container H} (h : c.Sound) {e : Event H} (hstage : e.KeepsStage)
    (hkeys : e.KeepsKeys) : (c.step e).1.Sound where
  coherent := h.coherent.step e
  tidy := h.tidy.step h.coherent hstage
  ticketed := h.ticketed.step hkeys

theorem Sound.run {c : Container H} (h : c.Sound) {es : List (Event H)}
    (hstage : ∀ e ∈ es, e.KeepsStage) (hkeys : ∀ e ∈ es, e.KeepsKeys) : (c.run es).Sound where
  coherent := h.coherent.run es
  tidy := h.tidy.run h.coherent hstage
  ticketed := h.ticketed.run hkeys

end Container

end Dashboard
