import Dashboard.Host.Scripted
import Dashboard.Proofs.Container.Coherence

/-!
# The container follows the resolver

What the container mounts or shows is what the resolver answers to the state delivered last, through
any number of deliveries that change nothing, mounts that take their time, failures and
deactivations. It may be at rest although the resolver names a plugin, but then it lost that plugin
after the last news.
-/

namespace Dashboard

namespace Container

variable {H : Type}

/-- The resolver's answer to what the container took note of last. -/
def wanted (c : Container H) : Option PluginId := c.observed.bind c.registry.answer

/-- A state that is no news has the answer that the container knows. -/
theorem wanted_of_unheard {c : Container H} (hpure : c.registry.IsPure) {s : Snapshot}
    (htornDown : c.tornDown = false) (hheard : c.hears s = false) :
    c.wanted = c.registry.target s := by
  unfold wanted
  cases hobserved : c.observed with
  | none => simp [hears, htornDown, hobserved] at hheard
  | some o =>
    have hsame : o.same (.ofSnapshot s) = true := by
      simpa [hears, htornDown, hobserved] using hheard
    exact Registry.answer_eq_of_same hpure hsame

def Event.delivered? : Event H → Option Snapshot
  | .deliver s => some s
  | _ => none

/-- The state delivered last. -/
def lastDelivered (es : List (Event H)) : Option Snapshot :=
  (es.filterMap Event.delivered?).getLast?

theorem lastDelivered_cons (e : Event H) (es : List (Event H)) :
    lastDelivered (e :: es) = (lastDelivered es).or e.delivered? := by
  unfold lastDelivered
  cases hdelivered : e.delivered? with
  | none => simp [hdelivered]
  | some s =>
    simp only [List.filterMap_cons, hdelivered, List.getLast?_cons]
    cases (es.filterMap Event.delivered?).getLast? <;> rfl

def isNews (c : Container H) : Event H → Bool
  | .deliver s => c.hears s
  | _ => false

/-- The container agrees with the resolver, given the state it was told last and the plugins that it
lost since there was news. -/
structure OnTarget (c : Container H) (told : Option Snapshot) (lost : PluginId → Prop) : Prop where
  heard : c.tornDown = false → ∀ s, told = some s → c.wanted = c.registry.target s
  target : ∀ id, c.phase.plugin? = some id → c.wanted = some id
  idle : c.tornDown = false → c.phase.plugin? = none → ∀ id, c.wanted = some id → lost id
  fresh : told = none → c.observed = none

theorem onTarget_new (registry : Registry) (host : H) (region : String) (lost : PluginId → Prop) :
    (new registry host region).OnTarget none lost where
  heard _ _ h := nomatch h
  target _ h := nomatch h
  idle _ _ _ h := nomatch h
  fresh _ := rfl

/-- Only the phase and what was observed matter. -/
theorem OnTarget.congr {c c' : Container H} {told : Option Snapshot} {lost lost' : PluginId → Prop}
    (h : c.OnTarget told lost) (hobserved : c'.observed = c.observed)
    (hregistry : c'.registry = c.registry) (hphase : c'.phase.plugin? = c.phase.plugin?)
    (htornDown : c'.tornDown = c.tornDown) (hlost : ∀ id, lost id → lost' id) :
    c'.OnTarget told lost' := by
  have hwanted : c'.wanted = c.wanted := by rw [wanted, wanted, hobserved, hregistry]
  exact
    { heard := fun ht s hs => by rw [hwanted, hregistry]; exact h.heard (htornDown ▸ ht) s hs
      target := fun id hid => hwanted ▸ h.target id (hphase ▸ hid)
      idle := fun ht hidle id hid =>
        hlost id (h.idle (htornDown ▸ ht) (hphase ▸ hidle) id (hwanted ▸ hid))
      fresh := fun hnone => hobserved ▸ h.fresh hnone }

variable [Adapter H]

/-- Whether there is news in some events. -/
def hearsNews (c : Container H) : List (Event H) → Bool
  | [] => false
  | e :: es => c.isNews e || (c.step e).1.hearsNews es

/-- The plugin that the container loses in an event: its mount fails, or it asks to be torn down. -/
def lost? (c : Container H) (e : Event H) : Option PluginId :=
  match e with
  | .deactivate r => if c.accepts r then c.phase.plugin? else none
  | e => (c.failure? e).map Prod.fst

/-- The container lost the plugin during some events, and there was no news after that. -/
def LostSince (c : Container H) (id : PluginId) : List (Event H) → Prop
  | [] => False
  | e :: es =>
    (c.step e).1.LostSince id es ∨ c.lost? e = some id ∧ (c.step e).1.hearsNews es = false

def losses (c : Container H) : List (Event H) → List PluginId
  | [] => []
  | e :: es => (c.lost? e).toList ++ (c.step e).1.losses es

theorem LostSince.mem_losses {c : Container H} {id : PluginId} {es : List (Event H)}
    (h : c.LostSince id es) : id ∈ c.losses es := by
  induction es generalizing c with
  | nil => exact h.elim
  | cons e es ih =>
    rcases h with hlater | ⟨hnow, -⟩
    · exact List.mem_append_right _ (ih hlater)
    · exact List.mem_append_left _ (by simp [hnow])

/-! ### Every event keeps the agreement -/

theorem OnTarget.step {c : Container H} {told : Option Snapshot} {lost lost' : PluginId → Prop}
    (h : c.OnTarget told lost) (hpure : c.registry.IsPure) (e : Event H)
    (hlost : ∀ id, c.lost? e = some id ∨ c.isNews e = false ∧ lost id → lost' id) :
    (c.step e).1.OnTarget (e.delivered?.or told) lost' := by
  have hout := step_outcome c e
  generalize c.step e = after at hout
  -- Without news the plugins that were lost before still count.
  have hkept (hnews : c.isNews e = false) (id : PluginId) : lost id → lost' id :=
    fun hid => hlost id (.inr ⟨hnews, hid⟩)
  cases hout with
  | @unheard s hheard =>
    exact
      { heard := fun ht t hs => Option.some.inj hs ▸ wanted_of_unheard hpure ht hheard
        target := h.target
        idle := fun ht hidle id hid => hkept hheard id (h.idle ht hidle id hid)
        fresh := fun hnone => by cases hnone }
  | @unmoved s hheard htarget =>
    exact
      { heard := fun _ t hs => Option.some.inj hs ▸ rfl
        target := fun id hid => htarget.trans hid
        idle := fun _ hidle id hid => by cases (htarget.trans hidle).symm.trans hid
        fresh := fun hnone => by cases hnone }
  | @emptied s hheard htarget =>
    exact
      { heard := fun _ t hs => Option.some.inj hs ▸ rfl
        target := fun _ hid => by cases hid
        idle := fun _ _ id hid => by cases htarget.symm.trans hid
        fresh := fun hnone => by cases hnone }
  | took hlaunch htarget | launched hlaunch htarget =>
    exact
      { heard := fun _ t hs => Option.some.inj hs ▸ rfl
        target := fun id hid => htarget.trans hid
        idle := fun _ hidle => by cases hidle
        fresh := fun hnone => by cases hnone }
  | @failed s d host e hlaunch htarget hmount =>
    have hfailed := failure?_of_failed hlaunch hmount
    exact
      { heard := fun _ t hs => Option.some.inj hs ▸ rfl
        target := fun _ hid => by cases hid
        idle := fun _ _ id hid => by
          cases htarget.symm.trans hid
          exact hlost _ (.inl (by simp [lost?, hfailed]))
        fresh := fun hnone => by cases hnone }
  | absent | ignored | gone => exact h.congr rfl rfl rfl rfl (hkept rfl)
  | unsettled | woken | adapter | mailbox => exact h.congr rfl rfl rfl rfl (hkept rfl)
  | confirmed _ hawaits => exact h.congr rfl rfl (by rw [hawaits.2]; rfl) rfl (hkept rfl)
  | @stale m host flights result =>
    cases result <;> exact h.congr rfl rfl rfl rfl (hkept rfl)
  | @refused m host flights id e hflights hawaits hpoll =>
    have hfailed := failure?_of_refused (hflights.mem_iff.2 List.mem_cons_self) hawaits hpoll
    have hwanted : c.wanted = some id := h.target id (by rw [hawaits.2]; rfl)
    exact
      { heard := h.heard
        target := fun _ hid => by cases hid
        idle := fun _ _ id' hid' => by
          cases hwanted.symm.trans hid'
          exact hlost _ (.inl (by simp [lost?, hfailed]))
        fresh := h.fresh }
  | @deactivated r haccepts =>
    obtain ⟨id, hid⟩ : ∃ id, c.phase.plugin? = some id := by
      refine Option.ne_none_iff_exists'.1 fun hplugin => ?_
      simp [accepts, Phase.eq_idle_of_plugin? hplugin, Phase.generation?] at haccepts
    exact
      { heard := h.heard
        target := fun _ hid => by cases hid
        idle := fun _ _ id' hid' => by
          cases (h.target id hid).symm.trans hid'
          exact hlost _ (.inl (by simp [lost?, haccepts, hid]))
        fresh := h.fresh }
  | ended =>
    exact
      { heard := fun ht => by cases ht
        target := fun _ hid => by cases hid
        idle := fun ht => by cases ht
        fresh := h.fresh }

theorem OnTarget.run {c : Container H} {told : Option Snapshot} {lost : PluginId → Prop}
    (h : c.OnTarget told lost) (hpure : c.registry.IsPure) (es : List (Event H)) :
    (c.run es).OnTarget ((lastDelivered es).or told)
      (fun id => c.LostSince id es ∨ c.hearsNews es = false ∧ lost id) := by
  induction es generalizing c told lost with
  | nil => exact h.congr rfl rfl rfl rfl fun id hid => .inr ⟨rfl, hid⟩
  | cons e es ih =>
    have hstep := h.step hpure e (fun id hid => hid)
    have hrun := ih hstep (by simpa using hpure)
    rw [lastDelivered_cons, Option.or_assoc, run_cons]
    refine hrun.congr rfl rfl rfl rfl fun id hid => ?_
    simp only [LostSince, hearsNews, Bool.or_eq_false_iff]
    rcases hid with hlater | ⟨hquiet, hnow | ⟨hnews, hbefore⟩⟩
    · exact .inl (.inl hlater)
    · exact .inl (.inr ⟨hnow, hquiet⟩)
    · exact .inr ⟨⟨hnews, hquiet⟩, hbefore⟩

/-! ### Every run -/

/-- At the end of every run, and so after each of its events, a container that is not torn down
agrees with the resolver's answer to the state delivered last. Plugins outside the registry are
never an answer. -/
theorem target_run (registry : Registry) (hpure : registry.IsPure) (host : H) (region : String)
    (es : List (Event H)) (hup : ((new registry host region).run es).tornDown = false) :
    let c := (new registry host region).run es
    (∀ id, c.phase.plugin? = some id →
      ∃ s, lastDelivered es = some s ∧ registry.target s = some id) ∧
    (∀ s, lastDelivered es = some s →
      (registry.target s = none → c.phase = .idle ∧ c.current = none) ∧
      (∀ id, c.phase = .idle → registry.target s = some id →
        (new registry host region).LostSince id es) ∧
      ∀ t, c.hears t = false → registry.target t = registry.target s) ∧
    ∀ t id, registry.target t = some id → ∃ d, registry.get? id = some d ∧ d.id = id := by
  intro c
  have hregistry : c.registry = registry := run_registry _ es
  have hcoherent : c.Coherent := (coherent_new registry host region).run es
  have honTarget := (onTarget_new registry host region fun _ => False).run hpure es
  rw [Option.or_none] at honTarget
  have htold (s : Snapshot) (hs : lastDelivered es = some s) : c.wanted = registry.target s :=
    (honTarget.heard hup s hs).trans (by rw [run_registry]; rfl)
  refine ⟨fun id hid => ?_, fun s hs => ⟨fun hnone => ?_, fun id hidle hid => ?_, fun t ht => ?_⟩,
    fun t id => Registry.exists_get?_of_target⟩
  · have hwanted : c.wanted = some id := honTarget.target id hid
    cases hs : lastDelivered es with
    | none => rw [wanted, honTarget.fresh hs] at hwanted; cases hwanted
    | some s => exact ⟨s, rfl, (htold s hs).symm.trans hwanted⟩
  · have hplugin : c.phase.plugin? = none := by
      cases hplugin : c.phase.plugin? with
      | none => rfl
      | some id =>
        have hwanted := honTarget.target id hplugin
        cases (hwanted.symm.trans (htold s hs)).trans hnone
    have hidle : c.phase = .idle := Phase.eq_idle_of_plugin? hplugin
    exact ⟨hidle, hcoherent.current_eq_none (by rw [hidle]; rfl)⟩
  · have hwanted : c.wanted = some id := (htold s hs).trans hid
    rcases honTarget.idle hup (congrArg Phase.plugin? hidle) id hwanted with hlost | ⟨-, hfalse⟩
    · exact hlost
    · exact hfalse.elim
  · exact (hregistry ▸ wanted_of_unheard (hregistry.symm ▸ hpure) hup ht).symm.trans (htold s hs)

/-- The plugins count the flags that are on. While `a` can be mounted it is; `b` fails, and its
failure is why nothing shows. -/
theorem target_run_refused :
    let registry : Registry :=
      .uniform .none (.minFlags "any flag" 1) [⟨"a"⟩, ⟨"b"⟩] (by decide)
    let host := Scripted.ofScript [(⟨"b"⟩, .fail "no renderer")]
    let fresh := new registry host "main"
    let pick (id : PluginId) : Event Scripted :=
      .deliver ⟨⟨[⟨"a"⟩, ⟨"b"⟩], none, some id⟩, FeatureFlags.empty.withFlag "beta" true, .empty⟩
    registry.IsPure ∧
      ((fresh.run [pick ⟨"a"⟩]).phase = .mounted ⟨"a"⟩ 1 ∧
        ∃ s, lastDelivered [pick ⟨"a"⟩] = some s ∧ registry.target s = some ⟨"a"⟩) ∧
      (fresh.run [pick ⟨"a"⟩, pick ⟨"b"⟩]).phase = .idle ∧
        fresh.LostSince ⟨"b"⟩ [pick ⟨"a"⟩, pick ⟨"b"⟩] := by
  intro registry host fresh pick
  have hpure : registry.IsPure :=
    Registry.isPure_uniform .none (Predicate.isPure_minFlags "any flag" 1) _
  have hmounted := (target_run registry hpure host "main" [pick ⟨"a"⟩] (by decide)).1
  have hrefused := (target_run registry hpure host "main" [pick ⟨"a"⟩, pick ⟨"b"⟩] (by decide)).2.1
  have hidle : (fresh.run [pick ⟨"a"⟩, pick ⟨"b"⟩]).phase = .idle := by decide
  exact ⟨hpure, ⟨by decide, hmounted ⟨"a"⟩ (by decide)⟩, hidle,
    (hrefused _ rfl).2.1 ⟨"b"⟩ hidle (by decide)⟩

end Container

end Dashboard
