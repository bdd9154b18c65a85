import Dashboard.Proofs.Container.Echo
import Dashboard.Proofs.Container.Twins

/-!
# Failed mounts

When the current attempt fails the container comes to rest with nothing attached and remembers why,
and the store does not hear of it. What the container has observed was noted before the mount was
tried, so that only a state with other observations can make it try again. Failures of superseded
attempts leave no trace.
-/

namespace Dashboard

/-! ### Observations that compare equal -/

namespace Number.Binary64

theorem same_trans {x y z : Binary64} (hxy : x.same y = true) (hyz : y.same z = true) :
    x.same z = true := by
  simp only [same, Bool.and_eq_true, Bool.or_eq_true, beq_iff_eq] at hxy hyz ⊢
  refine ⟨⟨hxy.1.1, hyz.1.2⟩, ?_⟩
  rcases hxy.2 with hbits | hzero
  · obtain rfl : x = y := congrArg Binary64.mk hbits
    exact hyz.2
  · rcases hyz.2 with hbits | hzero'
    · obtain rfl : y = z := congrArg Binary64.mk hbits
      exact .inr hzero
    · exact .inr ⟨hzero.1, hzero'.2⟩

end Number.Binary64

namespace Json

mutual

theorem same_trans {a b c : Json} (hab : a.same b = true) (hbc : b.same c = true) :
    a.same c = true := by
  cases a <;> cases b <;> simp only [same, Bool.false_eq_true] at hab <;>
    cases c <;> simp only [same, Bool.false_eq_true] at hbc ⊢
  case boolean | integer | string => simp_all
  case float => exact Number.Binary64.same_trans hab hbc
  case array => exact sameItems_trans hab hbc
  case object => exact sameEntries_trans hab hbc

theorem sameItems_trans {as bs cs : List Json} (hab : sameItems as bs = true)
    (hbc : sameItems bs cs = true) : sameItems as cs = true := by
  match as, bs, cs with
  | [], [], [] => rfl
  | a :: as, b :: bs, c :: cs =>
    simp only [sameItems, Bool.and_eq_true] at hab hbc ⊢
    exact ⟨same_trans hab.1 hbc.1, sameItems_trans hab.2 hbc.2⟩

theorem sameEntries_trans {as bs cs : List (String × Json)} (hab : sameEntries as bs = true)
    (hbc : sameEntries bs cs = true) : sameEntries as cs = true := by
  match as, bs, cs with
  | [], [], [] => rfl
  | (k, a) :: as, (l, b) :: bs, (m, c) :: cs =>
    simp only [sameEntries, Bool.and_eq_true, beq_iff_eq] at hab hbc ⊢
    exact ⟨⟨hab.1.1.trans hbc.1.1, same_trans hab.1.2 hbc.1.2⟩, sameEntries_trans hab.2 hbc.2⟩

end

end Json

theorem Observed.same_trans {a b c : Observed} (hab : a.same b = true) (hbc : b.same c = true) :
    a.same c = true := by
  simp only [same, Bool.and_eq_true, beq_iff_eq] at hab hbc ⊢
  obtain ⟨⟨⟨hknown, hselection⟩, hflags⟩, hsettings⟩ := hab
  obtain ⟨⟨⟨hknown', hselection'⟩, hflags'⟩, hsettings'⟩ := hbc
  exact ⟨⟨⟨hknown.trans hknown', hselection.trans hselection'⟩, hflags.trans hflags'⟩,
    Json.sameEntries_trans hsettings hsettings'⟩

namespace Container

variable {H : Type}

/-- What the container has observed is what it was told last, by value. -/
structure Noted (c : Container H) (told : Option Snapshot) : Prop where
  busy : c.phase ≠ .idle → told.isSome = true
  unheard : c.tornDown = false → ∀ s, told = some s → ∀ s',
    (Observed.ofSnapshot s).same (.ofSnapshot s') = true → c.hears s' = false

theorem noted_new (registry : Registry) (host : H) (region : String) :
    (new registry host region).Noted none where
  busy h := absurd rfl h
  unheard _ _ h := nomatch h

theorem Noted.congr {c c' : Container H} {told : Option Snapshot} (h : c.Noted told)
    (hphase : c'.phase ≠ .idle → c.phase ≠ .idle) (hobserved : c'.observed = c.observed)
    (htornDown : c'.tornDown = c.tornDown) : c'.Noted told where
  busy hbusy := h.busy (hphase hbusy)
  unheard hup s hs s' hsame := by
    rw [hears, hobserved, htornDown]
    exact h.unheard (htornDown ▸ hup) s hs s' hsame

/-- A state that was heard was noted. -/
theorem noted_of_heard {c : Container H} {s : Snapshot}
    (hobserved : c.observed = some (.ofSnapshot s)) : c.Noted (some s) where
  busy _ := rfl
  unheard _ t ht s' hsame := by
    obtain rfl : s = t := Option.some.inj ht
    simp [hears, hobserved, hsame]

variable [Adapter H]

theorem Noted.step {c : Container H} {told : Option Snapshot} (h : c.Noted told)
    (e : Event H) : (c.step e).1.Noted (e.delivered?.or told) := by
  have hout := step_outcome c e
  generalize c.step e = after at hout
  cases hout with
  | @unheard s hheard =>
    refine ⟨fun _ => rfl, fun hup t ht s' hsame => ?_⟩
    -- The container heard nothing new, so it had observed the same values before.
    obtain rfl : s = t := Option.some.inj ht
    have hup : c.tornDown = false := hup
    cases hobserved : c.observed with
    | none => simp [hears, hup, hobserved] at hheard
    | some o =>
      have hbefore : o.same (.ofSnapshot s) = true := by simpa [hears, hup, hobserved] using hheard
      simp [hears, hobserved, Observed.same_trans hbefore hsame]
  | unmoved | emptied | took | failed | launched => exact noted_of_heard rfl
  | absent | ignored | gone => exact h
  | confirmed _ hawaits => exact h.congr (fun _ => by simp [hawaits.2]) rfl rfl
  | @stale m host flights result => cases result <;> exact h.congr id rfl rfl
  | unsettled | woken | adapter | mailbox => exact h.congr id rfl rfl
  | refused | deactivated => exact h.congr (fun hbusy => absurd rfl hbusy) rfl rfl
  | ended => exact ⟨fun hbusy => absurd rfl hbusy, fun hup => Bool.noConfusion hup⟩

/-! ### The failure of the current attempt -/

/-- A container that is mounting or showing a plugin remembers no failure. -/
def Unblamed (c : Container H) : Prop := c.phase ≠ .idle → c.lastError = none

theorem Unblamed.step {c : Container H} (h : c.Unblamed) (e : Event H) :
    (c.step e).1.Unblamed := by
  have hout := step_outcome c e
  generalize c.step e = after at hout
  cases hout with
  | @stale m host flights result => cases result <;> exact h
  | took | launched => exact fun _ => rfl
  | confirmed _ hawaits => exact fun _ => h (by simp [hawaits.2])
  | emptied | failed | refused | deactivated | ended => exact fun hbusy => absurd rfl hbusy
  | _ => exact h

/-- Nothing is ever remembered as a failure but that of the current attempt. -/
theorem lastError_step {c : Container H} {e : Event H} (hfailure : c.failure? e = none) :
    (c.step e).1.lastError = c.lastError ∨ (c.step e).1.lastError = none := by
  have hout := step_outcome c e
  generalize c.step e = after at hout
  cases hout with
  | @stale m host flights result => cases result <;> exact .inl rfl
  | emptied | took | launched => exact .inr rfl
  | failed hlaunch _ hmount => cases (failure?_of_failed hlaunch hmount).symm.trans hfailure
  | refused hflights hawaits hpoll =>
    have hm := hflights.mem_iff.2 List.mem_cons_self
    cases (failure?_of_refused hm hawaits hpoll).symm.trans hfailure
  | _ => exact .inl rfl

theorem lastError_look_of_superseded {c : Container H} {m : InFlight} (h : c.Superseded m) :
    (c.step (.look m)).1.lastError = c.lastError := by
  have hout := step_outcome c (.look m)
  generalize c.step (.look m) = after at hout
  cases hout with
  | confirmed _ hawaits | refused _ hawaits => exact absurd hawaits (h.2 _)
  | @stale m host flights result => cases result <;> rfl
  | _ => rfl

/-- What the failure of the current attempt makes of a container. -/
structure Failed (c : Container H) (err : MountError) : Prop where
  phase : c.phase = .idle
  current : c.current = none
  error : c.lastError = some err
  up : c.tornDown = false

theorem failed_step {c : Container H} (hc : c.Coherent) {e : Event H} {id : PluginId}
    {err : MountError} (hfailure : c.failure? e = some (id, err)) :
    (c.step e).1.Failed err ∧ (c.step e).2 = [] := by
  have hout := step_outcome c e
  generalize c.step e = after at hout
  cases e with
  | deliver s =>
    obtain ⟨d, hlaunch, -, hfailed⟩ := failure?_deliver hfailure
    cases hout with
    | unheard hheard => cases (launch?_eq_none hheard).symm.trans hlaunch
    | unmoved _ htarget => cases (launch?_eq_none_of_target htarget).symm.trans hlaunch
    | emptied _ htarget => simp [launch?, htarget] at hlaunch
    | took hlaunch' _ hmount | launched hlaunch' _ hmount =>
      obtain rfl := Option.some.inj (hlaunch'.symm.trans hlaunch)
      rw [hmount] at hfailed
      cases hfailed
    | failed hlaunch' _ hmount =>
      obtain rfl := Option.some.inj (hlaunch'.symm.trans hlaunch)
      rw [hmount] at hfailed
      have hup := tornDown_of_launch? hlaunch
      cases hfailed
      exact ⟨⟨rfl, rfl, rfl, hup⟩, rfl⟩
  | look m =>
    obtain ⟨hm, hawaits, hfailed⟩ := failure?_look hfailure
    cases hout with
    | absent hm' => exact absurd hm hm'
    | stale _ hstale => exact absurd hawaits (hstale id)
    | confirmed _ _ hpoll => rw [hpoll] at hfailed; cases hfailed
    | @unsettled m host flights progress _ hpoll hprogress =>
      rw [hpoll] at hfailed
      cases progress with
      | settled result => exact absurd rfl (hprogress result)
      | _ => cases hfailed
    | refused _ _ hpoll =>
      rw [hpoll] at hfailed
      cases hfailed
      exact ⟨⟨rfl, hc.current_eq_none (by rw [hawaits.2]; rfl), rfl, hawaits.1⟩, rfl⟩
  | _ => cases hfailure

/-! ### Nothing is tried again -/

/-- The container is at rest over a failure, and states with the observations that it has are no
news to it. -/
structure Down (c : Container H) (s : Snapshot) (err : MountError) : Prop where
  phase : c.phase = .idle
  error : c.lastError = some err
  unheard : ∀ s', (Observed.ofSnapshot s).same (.ofSnapshot s') = true → c.hears s' = false

/-- The states that are delivered compare equal to a given one in all that the container
observes. -/
def Event.Repeats (s : Snapshot) (e : Event H) : Prop :=
  ∀ s', e.delivered? = some s' → (Observed.ofSnapshot s).same (.ofSnapshot s') = true

omit [Adapter H] in
theorem Down.congr {c c' : Container H} {s : Snapshot} {err : MountError} (h : c.Down s err)
    (hphase : c'.phase = .idle) (herror : c'.lastError = c.lastError)
    (hobserved : c'.observed = c.observed) (htornDown : c.tornDown = true → c'.tornDown = true) :
    c'.Down s err where
  phase := hphase
  error := herror.trans h.error
  unheard s' hsame := by
    have hbefore := h.unheard s' hsame
    simp only [hears, Bool.not_eq_false', Bool.or_eq_true] at hbefore ⊢
    exact hbefore.imp htornDown fun hany => hobserved ▸ hany

theorem Down.request?_eq_none {c : Container H} {s : Snapshot} {err : MountError}
    (h : c.Down s err) {e : Event H} (he : e.Repeats s) : c.request? e = none := by
  cases e with
  | deliver s' => rw [request?, launch?_eq_none (h.unheard s' (he s' rfl)), Option.map_none]
  | _ => rfl

theorem Down.step {c : Container H} {s : Snapshot} {err : MountError} (h : c.Down s err)
    {e : Event H} (he : e.Repeats s) : (c.step e).1.Down s err := by
  have hout := step_outcome c e
  generalize c.step e = after at hout
  have hidle (generation : Nat) (id : PluginId) : ¬ c.Awaits generation id := fun hawaits => by
    cases h.phase.symm.trans hawaits.2
  cases hout with
  | unheard | absent | ignored | gone => exact h
  | unmoved hheard | emptied hheard => cases (h.unheard _ (he _ rfl)).symm.trans hheard
  | took hlaunch | failed hlaunch | launched hlaunch =>
    cases (launch?_eq_none (h.unheard _ (he _ rfl))).symm.trans hlaunch
  | confirmed _ hawaits | refused _ hawaits => exact absurd hawaits (hidle _ _)
  | @stale m host flights result => cases result <;> exact h.congr h.phase rfl rfl id
  | unsettled | woken | adapter | mailbox => exact h.congr h.phase rfl rfl id
  | deactivated haccepts => cases (accepts_of_idle h.phase _).symm.trans haccepts
  | ended => exact h.congr rfl rfl rfl fun _ => rfl

/-- As long as nothing new is observed the failure stays, and the adapter is not asked to mount
anything. -/
theorem Down.run {c : Container H} {s : Snapshot} {err : MountError} (h : c.Down s err)
    {N : Type} (l : Ledger H N) {es : List (Event H)} (hes : ∀ e ∈ es, e.Repeats s)
    (hkept : ∀ e ∈ es, l.Kept e) :
    (c.run es).Down s err ∧ l.entries (c.run es).host = l.entries c.host := by
  induction es generalizing c with
  | nil => exact ⟨h, rfl⟩
  | cons e es ih =>
    have he := hes e List.mem_cons_self
    obtain ⟨hdown, hentries⟩ := ih (h.step he) (fun e' he' => hes e' (List.mem_cons_of_mem e he'))
      (fun e' he' => hkept e' (List.mem_cons_of_mem e he'))
    refine ⟨hdown, hentries.trans ?_⟩
    rw [l.entries_step c (hkept e List.mem_cons_self), h.request?_eq_none he]
    exact List.append_nil _

end Container

namespace Board

open Container (Noted Unblamed)

variable {H : Type} [Adapter H]

/-- What the failure of the current attempt makes of a board. -/
structure Contains (b b' : Board H) (err : MountError) : Prop where
  rest : b'.AtRest
  current : b'.container.current = none
  /-- Neither the state of the store nor its log has changed. -/
  store : b'.store = b.store
  error : b'.container.lastError = some err

/-- Nothing was mounted since a failure, and the failure is remembered. -/
structure Bides (b b' : Board H) (err : MountError) : Prop where
  rest : b'.AtRest
  error : b'.container.lastError = some err
  mounts : (Adapter.stage b'.container.host).mounts = (Adapter.stage b.container.host).mounts

theorem noted_run {b : Board H} (h : b.container.Noted b.told) (es : List (Event H)) :
    (b.run es).container.Noted (b.run es).told := by
  induction es generalizing b with
  | nil => exact h
  | cons e es ih =>
    refine ih ?_
    cases e with
    | apply a => exact h
    | deliver => exact h.step _
    | inside e => exact h.step e

theorem unblamed_run {b : Board H} (h : b.container.Unblamed) (es : List (Event H)) :
    (b.run es).container.Unblamed := by
  rw [container_run]
  generalize b.trail es = trail
  generalize b.container = c at h
  induction trail generalizing c with
  | nil => exact h
  | cons e trail ih => exact ih _ (h.step e)

theorem keepsStage_of_failure? {c : Container H} {e : Container.Event H} {id : PluginId}
    {err : MountError} (hfailure : c.failure? e = some (id, err)) : e.KeepsStage := by
  cases e with
  | adapter change => cases hfailure
  | _ => trivial

variable [LawfulAdapter H]

theorem Contains.of_failure? {b : Board H} {e : Container.Event H} {id : PluginId}
    {err : MountError} (htidy : b.container.Tidy) (hcoherent : b.container.Coherent)
    (hfailure : b.container.failure? e = some (id, err)) : b.Contains (b.inner e) err := by
  obtain ⟨hfailed, hsaid⟩ := Container.failed_step hcoherent hfailure
  have htidy' := htidy.step hcoherent (keepsStage_of_failure? hfailure)
  constructor
  case rest => exact (atRest_iff htidy').2 hfailed.phase
  case current => exact hfailed.current
  case store => rw [inner, hsaid]; rfl
  case error => exact hfailed.error

theorem Bides.of_down [RecordsMounts H] {b : Board H} {s : Snapshot} {err : MountError}
    (hdown : b.container.Down s err) (htidy : b.container.Tidy) (hcoherent : b.container.Coherent)
    {fs : List (Event H)} (hstage : ∀ f ∈ fs, f.KeepsStage)
    (hrepeats : ∀ e ∈ b.trail fs, e.Repeats s) : b.Bides (b.run fs) err := by
  have hkept : ∀ e ∈ b.trail fs, (Ledger.mounts H).Kept e := by
    intro e he
    have hkeeps := b.keepsStage_trail hstage e he
    cases e with
    | adapter change => exact fun h => congrArg Stage.mounts (hkeeps h)
    | _ => trivial
  obtain ⟨hlater, hmounts⟩ := hdown.run (Ledger.mounts H) hrepeats hkept
  rw [← container_run] at hlater hmounts
  exact ⟨(atRest_iff (tidy_run htidy hcoherent hstage)).2 hlater.phase, hlater.error, hmounts⟩

/-- In every run a failure of the current attempt leaves the container at rest and the store as it
was, and the failure stays, without another mount, as long as what the container observes does not
change. While a plugin is being mounted or shown no failure is remembered, and none is ever
remembered but that of a current attempt. -/
theorem failure_contained [RecordsMounts H] (registry : Registry) (host : H) (region : String)
    (s : Snapshot) (hhost : Adapter.stage host = .empty) {es : List (Event H)}
    (hes : ∀ e ∈ es, e.KeepsStage) :
    let b := (new registry host region s).run es
    (∀ e id err, b.container.failure? e = some (id, err) →
      b.Contains (b.inner e) err ∧
        ∃ told, (b.inner e).told = some told ∧
          ∀ fs : List (Event H), (∀ f ∈ fs, f.KeepsStage) →
            (∀ later ∈ ((b.inner e).trail fs).filterMap Container.Event.delivered?,
              (Observed.ofSnapshot told).same (.ofSnapshot later) = true) →
            (b.inner e).Bides ((b.inner e).run fs) err) ∧
    (b.container.phase ≠ .idle → b.container.lastError = none) ∧
    (∀ e, b.container.failure? e = none →
      (b.inner e).container.lastError = b.container.lastError ∨
        (b.inner e).container.lastError = none) ∧
    ∀ m, b.container.Superseded m →
      (b.inner (.look m)).container.lastError = b.container.lastError := by
  intro b
  have hcoherent : b.container.Coherent := coherent_run (Container.coherent_new _ _ _) es
  have htidy : b.container.Tidy :=
    tidy_run (Container.tidy_new _ _ _ hhost) (Container.coherent_new _ _ _) hes
  have hnoted : b.container.Noted b.told := noted_run (Container.noted_new _ _ _) es
  have hunblamed : b.container.Unblamed := unblamed_run (fun hbusy => absurd rfl hbusy) es
  refine ⟨fun e id err hfailure => ⟨.of_failure? htidy hcoherent hfailure, ?_⟩, hunblamed,
    fun e hnone => Container.lastError_step hnone,
    fun m hm => Container.lastError_look_of_superseded hm⟩
  obtain ⟨hfailed, -⟩ := Container.failed_step hcoherent hfailure
  have hcoherent' : (b.inner e).container.Coherent := hcoherent.step e
  have htidy' : (b.inner e).container.Tidy :=
    htidy.step hcoherent (keepsStage_of_failure? hfailure)
  have hnoted' : (b.inner e).container.Noted (b.inner e).told := hnoted.step e
  have htold : (b.inner e).told.isSome = true := by
    cases e with
    | deliver s' => rfl
    | look m =>
      have hawaits := (Container.failure?_look hfailure).2.1
      exact hnoted.busy (by simp [hawaits.2])
    | _ => cases hfailure
  obtain ⟨told, htold⟩ := Option.isSome_iff_exists.1 htold
  refine ⟨told, htold, fun fs hstage hsame => ?_⟩
  have hrepeats : ∀ f ∈ (b.inner e).trail fs, f.Repeats told :=
    fun f hf later hlater => hsame later (List.mem_filterMap.2 ⟨f, hf, hlater⟩)
  have hdown : (b.inner e).container.Down told err :=
    ⟨hfailed.phase, hfailed.error, hnoted'.unheard hfailed.up told htold⟩
  exact .of_down hdown htidy' hcoherent' hstage hrepeats

/-- The mount of `b` has superseded that of `a` and is about to fail. -/
def failing : List (Event Scripted) :=
  [.deliver, .apply (.selected ⟨"b"⟩), .deliver,
    .inside (.adapter fun h => (h.openGate ⟨"b"⟩ (some "no renderer")).1)]

/-- The mount of `a` fails too, `b` asks to be torn down, and the state is delivered again. -/
def aftermath : List (Event Scripted) :=
  [.deliver, .inside (.adapter fun h => (h.openGate ⟨"a"⟩ (some "too late")).1),
    .inside (.look ⟨1, ⟨⟨"a"⟩, 0⟩⟩), .inside (.deactivate ⟨⟨"b"⟩, 2⟩), .deliver]

/-- The failure of `b` is the one that stays, and `b` is not mounted again. -/
theorem failure_contained_late :
    let registry : Registry := .plain .none [⟨"a"⟩, ⟨"b"⟩] (by decide)
    let host := Scripted.ofScript [(⟨"a"⟩, .gated), (⟨"b"⟩, .gated)]
    let s := Snapshot.ofActivation ⟨[⟨"a"⟩, ⟨"b"⟩], none, some ⟨"a"⟩⟩
    let b := (new registry host "main" s).run failing
    let b' := b.inner (.look ⟨2, ⟨⟨"b"⟩, 1⟩⟩)
    b.Contains b' (.of ⟨"b"⟩ "no renderer") ∧
      b'.Bides (b'.run aftermath) (.of ⟨"b"⟩ "no renderer") ∧
      (b'.run aftermath).container.host.stage.mounts = [⟨"a"⟩, ⟨"b"⟩] := by
  intro registry host s b b'
  have hfailing : ∀ e ∈ failing, e.KeepsStage := by
    simp only [failing, List.forall_mem_cons, List.not_mem_nil, false_implies, implies_true,
      and_true]
    exact ⟨trivial, trivial, trivial, fun h => h.stage_openGate _ _⟩
  have haftermath : ∀ f ∈ aftermath, f.KeepsStage := by
    simp only [aftermath, List.forall_mem_cons, List.not_mem_nil, false_implies, implies_true,
      and_true]
    exact ⟨trivial, fun h => h.stage_openGate _ _, trivial, trivial, trivial⟩
  have hfailure : b.container.failure? (.look ⟨2, ⟨⟨"b"⟩, 1⟩⟩) =
      some (⟨"b"⟩, .of ⟨"b"⟩ "no renderer") := by decide
  obtain ⟨hcontains, told, htold, hbides⟩ :=
    (failure_contained registry host "main" _ (Scripted.stage_ofScript _) hfailing).1 _ _ _ hfailure
  obtain rfl : Snapshot.ofActivation ⟨[⟨"a"⟩, ⟨"b"⟩], none, some ⟨"b"⟩⟩ = told :=
    Option.some.inj htold
  exact ⟨hcontains, hbides aftermath haftermath (by decide), by decide⟩

end Board

end Dashboard
