import Dashboard.Proofs.Container.Coherence
import Dashboard.Proofs.Container.Watched

/-!
# What is attached

Over a lawful adapter the stage shows what the container's phase says and nothing else. Mounts that
were superseded stay in flight and may attach a unit at any later time, also one of the plugin that
is showing; the unit is detached within the same event. The previous plugin is unmounted before the
next mount starts.
-/

namespace Dashboard

namespace Container

variable {H : Type} [Adapter H]

/-- An event outside the container may attach and detach nothing. -/
def Event.KeepsStage : Event H → Prop
  | .adapter change => ∀ h, Adapter.stage (change h) = Adapter.stage h
  | _ => True

theorem Event.KeepsStage.watched {e : Event H} (h : e.KeepsStage) :
    (e.lift Watched.projection).KeepsStage := by
  cases e with
  | adapter change => exact fun w => h w.host
  | _ => trivial

/-- The container holds the live instance of the plugin it shows, nothing else is attached, and the
attempt it waits for is for the plugin it names. -/
structure Tidy (c : Container H) : Prop where
  held : c.current.map Instance.plugin = c.phase.shown?
  live : ∀ i, c.current = some i → i.live = true
  stage : (Adapter.stage c.host).Shows c.phase.shown?
  own : ∀ id g, c.phase = .mounting id g → ∀ m ∈ c.flights.toList, m.generation = g →
    m.ticket.plugin = id

theorem tidy_new (registry : Registry) (host : H) (region : String)
    (hhost : Adapter.stage host = .empty) : (new registry host region).Tidy where
  held := rfl
  live _ h := nomatch h
  stage := by
    change (Adapter.stage host).Shows none
    rw [hhost]
    exact Stage.shows_empty
  own _ _ h := nomatch h

theorem tidy_of_idle {c : Container H} (hphase : c.phase = .idle) (hcurrent : c.current = none)
    (hstage : (Adapter.stage c.host).Shows none) : c.Tidy where
  held := by rw [hphase, hcurrent]; rfl
  live i hi := by rw [hcurrent] at hi; cases hi
  stage := by rw [hphase]; exact hstage
  own id g hg := by rw [hphase] at hg; cases hg

theorem Tidy.congr {c c' : Container H} (h : c.Tidy) (hcurrent : c'.current = c.current)
    (hphase : c'.phase = c.phase) (hflights : ∀ m ∈ c'.flights.toList, m ∈ c.flights.toList)
    (hstage : (Adapter.stage c'.host).Shows c.phase.shown?) : c'.Tidy where
  held := by rw [hcurrent, hphase]; exact h.held
  live i hi := h.live i (hcurrent ▸ hi)
  stage := hphase ▸ hstage
  own id g hg m hm := h.own id g (hphase ▸ hg) m (hflights m hm)

/-! ### What the adapter is left with -/

variable [LawfulAdapter H]

/-- The outcome of a mount that nobody waits for leaves nothing behind. -/
theorem shows_discard {c : Container H} {before : Stage} {id : PluginId} {result : MountResult}
    {shown : Option PluginId} (hbefore : before.Shows shown)
    (hsettles : before.Settles id result (Adapter.stage c.host)) :
    (Adapter.stage (c.discard result).host).Shows shown := by
  cases result with
  | error e =>
    have hstage : Adapter.stage c.host = before := hsettles
    exact hstage ▸ hbefore
  | ok i =>
    obtain ⟨rfl, hstage⟩ := hsettles
    have hattached : id ∈ (Adapter.stage c.host).attached :=
      hstage ▸ Stage.mem_attached_attach before id
    change (Adapter.stage (Adapter.unmount c.host _).1).Shows shown
    rw [LawfulAdapter.unmount rfl hattached, hstage]
    exact hbefore.detach_attach id

theorem Tidy.release {c : Container H} (h : c.Tidy) :
    (Adapter.stage (release c.host c.current)).Shows none := by
  have hstage := h.stage
  have hheld := h.held
  cases hcurrent : c.current with
  | none =>
    rw [hcurrent] at hheld
    rw [← hheld] at hstage
    exact hstage
  | some i =>
    rw [hcurrent] at hheld
    rw [← hheld] at hstage
    have hattached : i.plugin ∈ (Adapter.stage c.host).attached := by simp [hstage.attached]
    change (Adapter.stage (Adapter.unmount c.host i).1).Shows none
    rw [LawfulAdapter.unmount (h.live i hcurrent) hattached]
    exact hstage.detach

theorem stage_release {c : Container H} (h : c.Tidy) :
    (Adapter.stage (release c.host c.current)).mounts = (Adapter.stage c.host).mounts ∧
    (Adapter.stage (release c.host c.current)).attachments = (Adapter.stage c.host).attachments ∧
    (Adapter.stage (release c.host c.current)).detachments =
      (Adapter.stage c.host).detachments ++ c.phase.shown?.toList := by
  have hheld := h.held
  cases hcurrent : c.current with
  | none =>
    rw [hcurrent] at hheld
    rw [← hheld]
    exact ⟨rfl, rfl, (List.append_nil _).symm⟩
  | some i =>
    rw [hcurrent] at hheld
    have hattached : i.plugin ∈ (Adapter.stage c.host).attached := by
      simp [h.stage.attached, ← hheld]
    rw [← hheld]
    simp only [release, LawfulAdapter.unmount (h.live i hcurrent) hattached]
    exact ⟨rfl, rfl, rfl⟩

theorem shows_drain {host : H} {shown : Option PluginId}
    (h : (Adapter.stage host).Shows shown) (ms : List InFlight) :
    (Adapter.stage (drain host ms)).Shows shown := by
  induction ms generalizing host with
  | nil => exact h
  | cons m ms ih =>
    have hgivenUp : ∀ {host' : H} {progress : Progress},
        Adapter.poll host m.ticket = (host', progress) →
        (∀ result, progress ≠ .settled result) →
        (Adapter.stage (Adapter.cancel host' m.ticket)).Shows shown := by
      intro host' progress hpoll hprogress
      rw [LawfulAdapter.cancel, LawfulAdapter.poll_unsettled hpoll hprogress]
      exact h
    simp only [drain]
    split
    · rename_i host' i hpoll
      obtain ⟨rfl, hstage⟩ := LawfulAdapter.poll_settled hpoll
      refine ih ?_
      have hattached : m.ticket.plugin ∈ (Adapter.stage host').attached :=
        hstage ▸ Stage.mem_attached_attach _ _
      rw [LawfulAdapter.unmount rfl hattached, hstage]
      exact h.detach_attach _
    · rename_i host' e hpoll
      have hstage : Adapter.stage host' = Adapter.stage host := LawfulAdapter.poll_settled hpoll
      exact ih (hstage ▸ h)
    · rename_i host' progress hok herror hpoll
      refine ih (hgivenUp hpoll fun result hresult => ?_)
      cases result with
      | ok i => exact hok i hresult
      | error e => exact herror e hresult

theorem Tidy.drained {c : Container H} (h : c.Tidy) (ms : List InFlight) :
    ({ c with host := drain c.host ms, flights := .empty } : Container H).Tidy :=
  h.congr rfl rfl (fun _ hm => nomatch hm) (shows_drain h.stage _)

/-! ### Every event keeps it tidy -/

theorem Tidy.step {c : Container H} (h : c.Tidy) (hc : c.Coherent) {e : Event H}
    (he : e.KeepsStage) : (c.step e).1.Tidy := by
  have hout := step_outcome c e
  generalize c.step e = after at hout
  cases hout with
  | unheard | absent | ignored | gone => exact h
  | unmoved | mailbox => exact h.congr rfl rfl (fun _ hm => hm) h.stage
  | adapter change => exact h.congr rfl rfl (fun _ hm => hm) ((he c.host).symm ▸ h.stage)
  | woken hflights => exact h.congr rfl rfl (fun _ hm => hflights.mem_iff.2 hm) h.stage
  | unsettled hflights hpoll hprogress =>
    refine h.congr rfl rfl (fun _ hm => hflights.mem_iff.2 hm) ?_
    rw [LawfulAdapter.poll_unsettled hpoll hprogress]
    exact h.stage
  | emptied | deactivated => exact tidy_of_idle rfl rfl h.release
  | ended => exact tidy_of_idle rfl rfl (h.drained _).release
  | failed hlaunch htarget hmount =>
    have hstage := LawfulAdapter.mount_ready hmount
    refine tidy_of_idle rfl rfl ?_
    rw [show Adapter.stage _ = _ from hstage]
    exact h.release.request _
  | took hlaunch htarget hmount =>
    obtain ⟨rfl, hstage⟩ := LawfulAdapter.mount_ready hmount
    exact
      { held := rfl
        live := fun i hi => Option.some.inj hi ▸ rfl
        stage := hstage ▸ (h.release.request _).attach _
        own := fun _ _ hg => by cases hg }
  | @launched s d host t hlaunch htarget hmount =>
    obtain ⟨hticket, hstage⟩ := LawfulAdapter.mount_pending hmount
    have hpush := Flights.perm_push c.flights ⟨c.generation + 1, t⟩
    exact
      { held := rfl
        live := fun _ hi => by cases hi
        stage := hstage ▸ h.release.request _
        -- Older mounts carry older generations, so none of them passes for the new attempt.
        own := fun id g hg m hm hmg => by
          injection hg with hid hg
          rcases List.mem_cons.1 (hpush.mem_iff.1 hm) with rfl | hm
          · exact hticket.trans hid
          · have := hc.issued m hm
            omega }
  | @confirmed m host flights id i hflights hawaits hpoll =>
    obtain ⟨rfl, hstage⟩ := LawfulAdapter.poll_settled hpoll
    have hid : m.ticket.plugin = id :=
      h.own id _ hawaits.2 m (hflights.mem_iff.2 List.mem_cons_self) rfl
    have hnone := h.stage
    rw [hawaits.2] at hnone
    exact
      { held := congrArg some hid
        live := fun i hi => Option.some.inj hi ▸ rfl
        stage := by
          change (Adapter.stage host).Shows (some id)
          rw [hstage, ← hid]
          exact Stage.Shows.attach hnone _
        own := fun _ _ hg => by cases hg }
  | @refused m host flights id e hflights hawaits hpoll =>
    have hstage : Adapter.stage host = Adapter.stage c.host := LawfulAdapter.poll_settled hpoll
    have hnone := h.stage
    rw [hawaits.2] at hnone
    exact tidy_of_idle rfl (hc.current_eq_none (by rw [hawaits.2]; rfl)) (hstage ▸ hnone)
  | @stale m host flights result hflights hawaits hpoll =>
    have hsettles := LawfulAdapter.poll_settled hpoll
    have hsub : ∀ n ∈ flights.toList, n ∈ c.flights.toList :=
      fun n hn => hflights.mem_iff.2 (List.mem_cons_of_mem m hn)
    have hstage := shows_discard (c := { c with host := host, flights := flights }) h.stage hsettles
    cases result with
    | ok i => exact h.congr rfl rfl hsub hstage
    | error e => exact h.congr rfl rfl hsub hstage

theorem Tidy.run {c : Container H} (h : c.Tidy) (hc : c.Coherent) {es : List (Event H)}
    (hes : ∀ e ∈ es, e.KeepsStage) : (c.run es).Tidy := by
  induction es generalizing c with
  | nil => exact h
  | cons e es ih =>
    rw [run_cons]
    exact ih (h.step hc (hes e List.mem_cons_self)) (hc.step e)
      (fun e' he' => hes e' (List.mem_cons_of_mem e he'))

/-! ### Mounts find the stage empty -/

instance : LawfulAdapter (Watched H) where
  mount_ready {w w' ctx result} hmount := by
    rcases hbelow : Adapter.mount w.host ctx with ⟨host, request⟩
    obtain ⟨rfl, rfl⟩ := Prod.mk.inj ((Watched.mount_eq hbelow).symm.trans hmount)
    exact LawfulAdapter.mount_ready (H := H) hbelow
  mount_pending {w w' ctx t} hmount := by
    rcases hbelow : Adapter.mount w.host ctx with ⟨host, request⟩
    obtain ⟨rfl, rfl⟩ := Prod.mk.inj ((Watched.mount_eq hbelow).symm.trans hmount)
    exact LawfulAdapter.mount_pending (H := H) hbelow
  poll_settled {w w' t result} hpoll := by
    rcases hbelow : Adapter.poll w.host t with ⟨host, progress⟩
    obtain ⟨rfl, rfl⟩ := Prod.mk.inj ((Watched.poll_eq hbelow).symm.trans hpoll)
    exact LawfulAdapter.poll_settled (H := H) hbelow
  poll_unsettled {w w' t progress} hpoll hprogress := by
    rcases hbelow : Adapter.poll w.host t with ⟨host, progress'⟩
    obtain ⟨rfl, rfl⟩ := Prod.mk.inj ((Watched.poll_eq hbelow).symm.trans hpoll)
    exact LawfulAdapter.poll_unsettled (H := H) hbelow hprogress
  cancel {w t} := LawfulAdapter.cancel (H := H)
  unmount {w i} hlive hattached := LawfulAdapter.unmount (H := H) hlive hattached

/-- The adapter is asked to mount a plugin with nothing attached only. -/
def MountsOntoEmpty (c : Container (Watched H)) : Prop := ∀ attached ∈ c.host.calls, attached = []

theorem MountsOntoEmpty.step {c : Container (Watched H)} (h : c.MountsOntoEmpty) (hc : c.Tidy)
    (e : Event H) : (c.step (e.lift Watched.projection)).1.MountsOntoEmpty := by
  have hnotes : (c.step (e.lift Watched.projection)).1.host.calls =
      c.host.calls ++ (c.request? (e.lift Watched.projection)).toList.map fun _ =>
        (Adapter.stage (release c.host c.current)).attached :=
    Watched.ledger.entries_step c
      (Watched.ledger.kept_lift Watched.projection (fun _ _ => rfl) e)
  intro attached hattached
  rw [hnotes, hc.release.attached] at hattached
  rcases List.mem_append.1 hattached with hbefore | hnow
  · exact h attached hbefore
  · obtain ⟨ctx, -, hempty⟩ := List.mem_map.1 hnow
    exact hempty.symm

theorem MountsOntoEmpty.run {c : Container (Watched H)} (h : c.MountsOntoEmpty) (hc : c.Tidy)
    (hcoherent : c.Coherent) {es : List (Event H)} (hes : ∀ e ∈ es, e.KeepsStage) :
    (c.run (es.map (.lift Watched.projection))).MountsOntoEmpty := by
  induction es generalizing c with
  | nil => exact h
  | cons e es ih =>
    rw [List.map_cons, run_cons]
    exact ih (h.step hc e) (hc.step hcoherent (hes e List.mem_cons_self).watched)
      (hcoherent.step _) (fun e' he' => hes e' (List.mem_cons_of_mem e he'))

/-! ### Every run -/

/-- What the owner of the adapter can rely on. -/
structure Orderly (c : Container H) : Prop where
  /-- An instance is held exactly while a plugin is mounted. -/
  mounted : c.current.isSome = true ↔ ∃ id g, c.phase = .mounted id g
  /-- The instance belongs to the plugin that is mounted. -/
  held : c.current.map Instance.plugin = c.phase.shown?
  /-- The plugin that is mounted is attached once, and no other plugin is. -/
  attached : (Adapter.stage c.host).attached = c.phase.shown?.toList
  /-- Of the units that ever attached, all but the mounted one were detached, each once. -/
  books : ∀ id, (Adapter.stage c.host).attachments.count id =
    (Adapter.stage c.host).detachments.count id + if c.phase.shown? = some id then 1 else 0

omit [LawfulAdapter H] in
theorem Tidy.orderly {c : Container H} (h : c.Tidy) : c.Orderly where
  mounted := by
    rw [← Option.isSome_map (f := Instance.plugin), h.held]
    cases c.phase <;> simp [Phase.shown?]
  held := h.held
  attached := h.stage.attached
  books id := by
    rw [h.stage.balanced id, h.stage.attached]
    cases c.phase.shown? with
    | none => rfl
    | some shown => simp [List.count_singleton]

/-- Every run over a lawful adapter, on which nothing was attached before, is orderly at its end and
so after each of its events; and in no event of the run is the adapter asked to mount a plugin
while something is attached. -/
theorem orderly_run (registry : Registry) (host : H) (region : String)
    (hhost : Adapter.stage host = .empty) {es : List (Event H)} (hes : ∀ e ∈ es, e.KeepsStage) :
    let c := (new registry host region).run es
    let watched := (new registry (Watched.of host) region).run (es.map (.lift Watched.projection))
    c.Orderly ∧ watched.project Watched.projection = c ∧ watched.MountsOntoEmpty := by
  have htidy := tidy_new registry host region hhost
  have hnew : (new registry (Watched.of host) region).MountsOntoEmpty := fun _ h => by cases h
  have htidyWatched := tidy_new registry (Watched.of host) region hhost
  exact ⟨(htidy.run (coherent_new _ _ _) hes).orderly, run_project _ _ _,
    hnew.run htidyWatched (coherent_new _ _ _) hes⟩

/-- A mount of `a` is superseded by one of `b` and settles after it. -/
def lateMount : List (Event Scripted) :=
  [.deliver (.ofActivation ⟨[⟨"a"⟩, ⟨"b"⟩], none, some ⟨"a"⟩⟩),
    .deliver (.ofActivation ⟨[⟨"a"⟩, ⟨"b"⟩], none, some ⟨"b"⟩⟩),
    .adapter fun h => (h.openGate ⟨"a"⟩ none).1, .look ⟨1, ⟨⟨"a"⟩, 0⟩⟩]

/-- The bundles of `a` and `b` are fetched side by side, and that of `a` comes too late. -/
def lateFetch : List (Event Headless) :=
  [.deliver (.ofActivation ⟨[⟨"a"⟩, ⟨"b"⟩], none, some ⟨"a"⟩⟩),
    .deliver (.ofActivation ⟨[⟨"a"⟩, ⟨"b"⟩], none, some ⟨"b"⟩⟩),
    .look ⟨1, ⟨⟨"a"⟩, 0⟩⟩, .look ⟨2, ⟨⟨"b"⟩, 1⟩⟩, .look ⟨2, ⟨⟨"b"⟩, 1⟩⟩, .look ⟨1, ⟨⟨"a"⟩, 0⟩⟩]

theorem keepsStage_lateMount : ∀ e ∈ lateMount, e.KeepsStage := by
  simp only [lateMount, List.forall_mem_cons, List.not_mem_nil, false_implies, implies_true,
    and_true]
  exact ⟨trivial, trivial, fun h => h.stage_openGate ⟨"a"⟩ none, trivial⟩

theorem keepsStage_lateFetch : ∀ e ∈ lateFetch, e.KeepsStage := by
  simp [lateFetch, Event.KeepsStage]

/-- Over both adapters the late unit of `a` is detached, and `b` alone is attached. -/
theorem orderly_run_late :
    (let registry : Registry := .plain .none [⟨"a"⟩, ⟨"b"⟩] (by decide)
      let c := (new registry (Scripted.ofScript [(⟨"a"⟩, .gated)]) "main").run lateMount
      c.Orderly ∧ c.phase = .mounted ⟨"b"⟩ 2 ∧ c.host.stage.detachments = [⟨"a"⟩]) ∧
    (let registry : Registry := .plain (.bundle "bundle.js") [⟨"a"⟩, ⟨"b"⟩] (by decide)
      let c := (new registry Headless.empty "main").run lateFetch
      c.Orderly ∧ c.phase = .mounted ⟨"b"⟩ 2 ∧ c.host.stage.detachments = [⟨"a"⟩]) := by
  constructor
  · intro registry c
    exact ⟨(orderly_run registry _ "main" (Scripted.stage_ofScript _) keepsStage_lateMount).1,
      by decide, by decide⟩
  · intro registry c
    exact ⟨(orderly_run registry _ "main" rfl keepsStage_lateFetch).1, by decide, by decide⟩

end Container

end Dashboard
