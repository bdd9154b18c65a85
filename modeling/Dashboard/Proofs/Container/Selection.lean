import Dashboard.Proofs.Container.Board

/-!
# The user's choice

A confirmation makes the plugin that was mounted the persisted selection, in the very place where
the user's choice stands. A mount that was started before the choice and settles before the choice
is delivered is still current, so its confirmation overwrites the choice and the container never
hears of it. That is the only way to lose a choice: as soon as the container was told of it, nothing
but the chosen plugin is ever confirmed.
-/

namespace Dashboard

namespace Board

variable {H : Type}

/-- The container is fed by its store alone and is not torn down, and no one else confirms. -/
def Event.Ordinary : Event H → Prop
  | .apply (.activated _) => False
  | .inside (.deliver _) => False
  | .inside (.teardown _) => False
  | _ => True

def Event.isDelivery : Event H → Bool
  | .deliver => true
  | _ => false

/-- The chosen plugin is mounted and is the persisted selection. -/
def Shows (b : Board H) (id : PluginId) : Prop :=
  (∃ g, b.container.phase = .mounted id g) ∧ b.selection = some id

/-- The latest state was delivered and no mount is in flight. -/
def Quiet (b : Board H) : Prop :=
  b.told = some b.store.snapshot ∧ b.container.flights.toList = []

/-- In a quiet state the selection is showing, provided it is eligible and was never lost. -/
theorem shows_of_quiet {b : Board H} {id : PluginId} {lost : PluginId → Prop}
    (hcoherent : b.container.Coherent) (honTarget : b.container.OnTarget b.told lost)
    (hup : b.container.tornDown = false) (hquiet : b.Quiet) (hselection : b.selection = some id)
    (hid : id ∈ b.container.registry.eligibleIn b.store.snapshot)
    (hkept : ¬ lost id) : b.Shows id := by
  refine ⟨?_, hselection⟩
  have hwanted : b.container.wanted = some id :=
    (honTarget.heard hup _ hquiet.1).trans (Registry.target_of_selection hselection hid)
  cases hphase : b.container.phase with
  | idle => exact absurd (honTarget.idle hup (by rw [hphase]; rfl) id hwanted) hkept
  | mounting other g =>
    obtain ⟨m, hm, -⟩ := hcoherent.attended other g hphase
    rw [hquiet.2] at hm
    cases hm
  | mounted other g =>
    have hother : b.container.wanted = some other := honTarget.target other (by rw [hphase]; rfl)
    exact ⟨g, by rw [Option.some.inj (hother.symm.trans hwanted)]⟩

variable [Adapter H]

/-- The user's last choice in a run is a plugin that is eligible from then on, and that is never
lost by a failed mount or a deactivation. -/
structure LastChoice (b : Board H) (id : PluginId) (before after : List (Event H)) : Prop where
  ordinary : ∀ e ∈ before ++ after, e.Ordinary
  last : ∀ e ∈ after, e.KeepsSelection
  eligible : ∀ s ∈ (b.run (before ++ [.apply (.selected id)])).states after,
    id ∈ b.container.registry.eligibleIn s
  kept : id ∉ b.container.losses (b.trail (before ++ [.apply (.selected id)] ++ after))

/-! ### The container is on target -/

theorem tornDown_run (b : Board H) {es : List (Event H)} (hes : ∀ e ∈ es, e.Ordinary) :
    (b.run es).container.tornDown = b.container.tornDown := by
  induction es generalizing b with
  | nil => rfl
  | cons e es ih =>
    rw [run_cons, ih _ fun e' he' => hes e' (List.mem_cons_of_mem e he')]
    have he := hes e List.mem_cons_self
    cases e with
    | apply a => rfl
    | deliver => exact Container.step_tornDown _ _ (by simp)
    | inside e => exact Container.step_tornDown _ _ fun _ hgone => by subst hgone; exact he

theorem wanted_of_confirms? {b : Board H} {e : Event H} {id : PluginId} {told : Option Snapshot}
    {lost : PluginId → Prop} (honTarget : (b.step e).container.OnTarget told lost)
    (h : b.confirms? e = some id) : (b.step e).container.wanted = some id := by
  have hconfirms {e' : Container.Event H} (hinner : b.container.confirms? e' = some id) :
      (b.container.step e').1.phase.plugin? = some id := by
    obtain ⟨g, hphase⟩ := Container.phase_of_confirms? hinner
    rw [hphase]
    rfl
  cases e with
  | apply a => cases h
  | deliver => exact honTarget.target id (hconfirms h)
  | inside e => exact honTarget.target id (hconfirms h)

/-- What the container wants changes only when it is told something. -/
theorem wanted_step (b : Board H) {e : Event H} (he : e.Ordinary)
    (hdelivery : e.isDelivery = false) :
    (b.step e).container.wanted = b.container.wanted := by
  cases e with
  | apply a => rfl
  | deliver => cases hdelivery
  | inside e =>
    have hobserved := b.container.step_observed e fun s hs => by subst hs; exact he
    have hregistry := b.container.step_registry e
    change (b.container.step e).1.observed.bind (b.container.step e).1.registry.answer = _
    rw [hobserved, hregistry]
    rfl

/-! ### What is confirmed after the choice -/

/-- The choice stands in the store of a container that works. -/
structure Chosen (b : Board H) (id : PluginId) : Prop where
  pure : b.container.registry.IsPure
  up : b.container.tornDown = false
  onTarget : b.container.OnTarget b.told fun _ => True
  selection : b.selection = some id

theorem Chosen.step {b : Board H} {id : PluginId} (h : b.Chosen id) {e : Event H} (he : e.Ordinary)
    (hkeeps : e.KeepsSelection) (hconfirms : ∀ other, b.confirms? e = some other → other = id) :
    (b.step e).Chosen id where
  pure := by
    have hregistry := registry_run b [e]
    exact (show (b.step e).container.registry = _ from hregistry) ▸ h.pure
  up := by
    have hup : (b.run [e]).container.tornDown = _ := tornDown_run b (by simpa using he)
    exact hup.trans h.up
  onTarget := (onTarget_run h.onTarget h.pure [e]).congr rfl rfl rfl rfl fun _ _ => trivial
  selection := by
    rw [selection_step b hkeeps]
    cases hother : b.confirms? e with
    | none => exact h.selection
    | some other => rw [hconfirms other hother]; rfl

/-- The delivery of the choice makes the container want it. -/
theorem Chosen.wanted_deliver {b : Board H} {id : PluginId} (h : b.Chosen id)
    (hid : id ∈ b.container.registry.eligibleIn b.store.snapshot) :
    (b.step .deliver).container.wanted = some id := by
  have honTarget := onTarget_run h.onTarget h.pure [.deliver]
  have hup : (b.run [.deliver]).container.tornDown = _ :=
    tornDown_run b (by simp [Event.Ordinary])
  have hregistry := registry_run b [.deliver]
  exact (honTarget.heard (hup.trans h.up) _ rfl).trans
    (hregistry ▸ Registry.target_of_selection h.selection hid)

/-- What a run after the choice may assume of its events and of the states of the store. -/
structure Stands (b : Board H) (id : PluginId) (es : List (Event H)) : Prop where
  ordinary : ∀ e ∈ es, e.Ordinary
  keeps : ∀ e ∈ es, e.KeepsSelection
  eligible : ∀ s ∈ b.states es,
    id ∈ b.container.registry.eligibleIn s

theorem Stands.now {b : Board H} {id : PluginId} {es : List (Event H)} (h : b.Stands id es) :
    id ∈ b.container.registry.eligibleIn b.store.snapshot := by
  cases es <;> exact h.eligible _ (by simp [states])

theorem Stands.tail {b : Board H} {id : PluginId} {e : Event H} {es : List (Event H)}
    (h : b.Stands id (e :: es)) : (b.step e).Stands id es where
  ordinary e' he' := h.ordinary e' (List.mem_cons_of_mem e he')
  keeps e' he' := h.keeps e' (List.mem_cons_of_mem e he')
  eligible s hs := by
    have hregistry : (b.step e).container.registry = _ := registry_run b [e]
    exact hregistry ▸ h.eligible s (List.mem_cons_of_mem _ hs)

theorem Chosen.confirms_of_wanted {b : Board H} {id : PluginId} {e : Event H} (h : b.Chosen id)
    (hwanted : (b.step e).container.wanted = some id) (other : PluginId)
    (hother : b.confirms? e = some other) : other = id := by
  have honTarget : (b.step e).container.OnTarget _ _ := onTarget_run h.onTarget h.pure [e]
  exact Option.some.inj ((wanted_of_confirms? honTarget hother).symm.trans hwanted)

/-- If the container wants the chosen plugin already, or confirms no other before it is told of the
choice, it never confirms another. -/
theorem confirmed_of_window {b : Board H} {id : PluginId} {es : List (Event H)} (h : b.Chosen id)
    (hes : b.Stands id es)
    (hwindow : b.container.wanted = some id ∨
      ∀ other ∈ b.confirmed (es.takeWhile fun e => !e.isDelivery), other = id) :
    ∀ other ∈ b.confirmed es, other = id := by
  -- Once the choice was delivered the left side holds for good; before that the window shrinks.
  induction es generalizing b with
  | nil => simp [confirmed]
  | cons e es ih =>
    have hordinary := hes.ordinary e List.mem_cons_self
    have hstep : (∀ other, b.confirms? e = some other → other = id) ∧
        ((b.step e).container.wanted = some id ∨
          ∀ other ∈ (b.step e).confirmed (es.takeWhile fun e => !e.isDelivery), other = id) := by
      cases hdelivery : e.isDelivery with
      | true =>
        obtain rfl : e = .deliver := by cases e <;> first | rfl | cases hdelivery
        have hwanted := h.wanted_deliver hes.now
        exact ⟨h.confirms_of_wanted hwanted, .inl hwanted⟩
      | false =>
        rcases hwindow with hwanted | hwindow
        · have hwanted' := (wanted_step b hordinary hdelivery).trans hwanted
          exact ⟨h.confirms_of_wanted hwanted', .inl hwanted'⟩
        · rw [List.takeWhile_cons_of_pos (by simp [hdelivery])] at hwindow
          refine ⟨fun other hother => hwindow other (List.mem_append_left _ ?_), .inr ?_⟩
          · exact Option.mem_toList.2 hother
          · exact fun other hother => hwindow other (List.mem_append_right _ hother)
    intro other hother
    rcases List.mem_append.1 hother with hnow | hlater
    · exact hstep.1 other (Option.mem_toList.1 hnow)
    · exact ih (h.step hordinary (hes.keeps e List.mem_cons_self) hstep.1) hes.tail hstep.2 other
        hlater

/-! ### The end of the run -/

theorem selection_choose (b : Board H) (before : List (Event H)) (id : PluginId) :
    (b.run (before ++ [.apply (.selected id)])).selection = some id := by
  rw [run_append]
  simp only [run_cons, run_nil, selection, step, RecordingStore.apply, Snapshot.reduce]
  split
  · assumption
  · rfl

theorem snapshot_mem_states (b : Board H) (es : List (Event H)) :
    (b.run es).store.snapshot ∈ b.states es := by
  induction es generalizing b with
  | nil => exact List.mem_singleton_self _
  | cons e es ih => exact List.mem_cons_of_mem _ (ih _)

theorem LastChoice.stands {b : Board H} {id : PluginId} {before after : List (Event H)}
    (h : b.LastChoice id before after) :
    (b.run (before ++ [.apply (.selected id)])).Stands id after where
  ordinary e he := h.ordinary e (List.mem_append_right _ he)
  keeps := h.last
  eligible := registry_run b _ ▸ h.eligible

section

variable {registry : Registry} {host : H} {region : String} {s : Snapshot} {id : PluginId}
  {before after : List (Event H)}

theorem LastChoice.chosen (hpure : registry.IsPure)
    (h : (new registry host region s).LastChoice id before after) :
    ((new registry host region s).run (before ++ [.apply (.selected id)])).Chosen id where
  pure := by
    rw [registry_run]
    exact hpure
  up := by
    refine tornDown_run (new registry host region s) fun e he => ?_
    rcases List.mem_append.1 he with hbefore | hnow
    · exact h.ordinary e (List.mem_append_left _ hbefore)
    · exact List.mem_singleton.1 hnow ▸ trivial
  onTarget := by
    have hstart := Container.onTarget_new registry host region fun _ => False
    exact (onTarget_run hstart hpure _).congr rfl rfl rfl rfl fun _ _ => trivial
  selection := selection_choose _ _ _

theorem LastChoice.shows_of_selection (hpure : registry.IsPure)
    (h : (new registry host region s).LastChoice id before after) {b : Board H}
    (hb : b = (new registry host region s).run (before ++ [.apply (.selected id)] ++ after))
    (hquiet : b.Quiet) (hselection : b.selection = some id) : b.Shows id := by
  have hstart := Container.onTarget_new registry host region fun _ => False
  have hcoherent := coherent_run (b := new registry host region s)
    (Container.coherent_new registry host region) (before ++ [.apply (.selected id)] ++ after)
  have honTarget := onTarget_run (b := new registry host region s) hstart hpure
    (before ++ [.apply (.selected id)] ++ after)
  rw [← hb] at hcoherent honTarget
  rw [run_append] at hb
  have hup : b.container.tornDown = false := by
    rw [hb, tornDown_run _ h.stands.ordinary]
    exact (h.chosen hpure).up
  have heligible : id ∈ b.container.registry.eligibleIn b.store.snapshot := by
    rw [hb, registry_run]
    exact h.stands.eligible _ (snapshot_mem_states _ after)
  refine shows_of_quiet hcoherent honTarget hup hquiet hselection heligible ?_
  rintro (hlost | ⟨-, hfalse⟩)
  · exact h.kept hlost.mem_losses
  · exact hfalse

end

/-- The user's last choice is shown and stays selected exactly when the last confirmation that
follows it, if any, is its own. It is whenever no other plugin is confirmed between the choice and
the next delivery. -/
theorem shows_choice_iff (registry : Registry) (hpure : registry.IsPure) (host : H)
    (region : String) (s : Snapshot) {id : PluginId} {before after : List (Event H)}
    (hchoice : (new registry host region s).LastChoice id before after) :
    let chosen := (new registry host region s).run (before ++ [.apply (.selected id)])
    (chosen.run after).Quiet →
      ((chosen.run after).Shows id ↔ ∀ other ∈ (chosen.confirmed after).getLast?, other = id) ∧
      ((∀ other ∈ chosen.confirmed (after.takeWhile fun e => !e.isDelivery), other = id) →
        (chosen.run after).Shows id) := by
  intro chosen hquiet
  have hchosen : chosen.Chosen id := hchoice.chosen hpure
  have hselection : (chosen.run after).selection = (chosen.confirmed after).getLast?.or (some id) :=
    hchosen.selection ▸ selection_run chosen hchoice.last
  have hshows : (chosen.run after).Shows id ↔
      ∀ other ∈ (chosen.confirmed after).getLast?, other = id := by
    constructor
    · intro hshows other hother
      rw [hshows.2, Option.mem_def.1 hother] at hselection
      exact (Option.some.inj hselection).symm
    · intro hlast
      refine hchoice.shows_of_selection hpure (run_append _ _ _).symm hquiet ?_
      cases hother : (chosen.confirmed after).getLast? with
      | none => rw [hselection, hother]; rfl
      | some other => rw [hselection, hother, hlast other hother]; rfl
  refine ⟨hshows, fun hwindow => hshows.2 fun other hother => ?_⟩
  have hconfirmed := confirmed_of_window hchosen hchoice.stands (.inr hwindow)
  exact hconfirmed other (List.mem_of_getLast? hother)

/-- The container starts to mount `a`, for want of a choice. -/
def fallback : Board Scripted :=
  new (.plain .none [⟨"a"⟩, ⟨"b"⟩] (by decide)) (Scripted.ofScript [(⟨"a"⟩, .gated)]) "main"
    (.ofActivation ⟨[⟨"a"⟩, ⟨"b"⟩], none, none⟩)

def settleFallback : List (Event Scripted) :=
  [.inside (.adapter fun h => (h.openGate ⟨"a"⟩ none).1), .inside (.look ⟨1, ⟨⟨"a"⟩, 0⟩⟩)]

theorem lastChoice_overtaken :
    fallback.LastChoice ⟨"b"⟩ [.deliver] (settleFallback ++ [.deliver]) where
  ordinary := by simp [settleFallback, Event.Ordinary]
  last := by simp [settleFallback, Event.KeepsSelection]
  eligible := by decide
  kept := by decide

theorem lastChoice_heard :
    fallback.LastChoice ⟨"b"⟩ [.deliver] (.deliver :: settleFallback ++ [.deliver]) where
  ordinary := by simp [settleFallback, Event.Ordinary]
  last := by simp [settleFallback, Event.KeepsSelection]
  eligible := by decide
  kept := by decide

/-- The mount of `a` settles after `b` was chosen and before the container is told of it: the choice
is lost. -/
theorem choice_overtaken :
    let chosen := fallback.run [.deliver, .apply (.selected ⟨"b"⟩)]
    let b := chosen.run (settleFallback ++ [.deliver])
    fallback.LastChoice ⟨"b"⟩ [.deliver] (settleFallback ++ [.deliver]) ∧ b.Quiet ∧
      ¬ b.Shows ⟨"b"⟩ ∧ b.container.phase = .mounted ⟨"a"⟩ 1 ∧ b.selection = some ⟨"a"⟩ := by
  intro chosen b
  have hselection : b.selection = some ⟨"a"⟩ := by decide
  refine ⟨lastChoice_overtaken, ⟨rfl, by decide⟩, fun hshows => ?_, by decide, hselection⟩
  exact absurd (hshows.2.symm.trans hselection) (by decide)

/-- The container is told of the choice before the mount of `a` settles: the choice is shown. -/
theorem choice_heard :
    let chosen := fallback.run [.deliver, .apply (.selected ⟨"b"⟩)]
    let b := chosen.run (.deliver :: settleFallback ++ [.deliver])
    fallback.LastChoice ⟨"b"⟩ [.deliver] (.deliver :: settleFallback ++ [.deliver]) ∧ b.Quiet ∧
      b.Shows ⟨"b"⟩ := by
  intro chosen b
  have hquiet : b.Quiet := ⟨rfl, by decide⟩
  have h := shows_choice_iff (.plain .none [⟨"a"⟩, ⟨"b"⟩] (by decide))
    (Registry.isPure_plain .none _) (Scripted.ofScript [(⟨"a"⟩, .gated)]) "main"
    (.ofActivation ⟨[⟨"a"⟩, ⟨"b"⟩], none, none⟩) lastChoice_heard
  exact ⟨lastChoice_heard, hquiet, (h hquiet).2 (by decide)⟩

end Board

end Dashboard
