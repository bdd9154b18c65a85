import Dashboard.Proofs.Container.Attachment
import Dashboard.Proofs.Container.Board

/-!
# Deactivation and the echo of a confirmation

What the container confirms comes back to it as a state of the store. If the selection was not yet
the plugin that is confirmed, that state is news to the container although the container itself
caused it, and if the plugin asks to be torn down before the state is delivered, the delivery mounts
it anew. In the other order the plugin stays away. The two orders agree only where the state is no
news, or where the new mount fails at once.
-/

namespace Dashboard

namespace Container

variable {H : Type} [Adapter H]

/-- The delivery of a state starts no mount, or one that fails at once. -/
def StartsInVain (c : Container H) (s : Snapshot) : Prop :=
  c.launch? s = none ∨ (c.failure? (.deliver s)).isSome = true

theorem deliver_of_startsInVain {c : Container H} {s : Snapshot} (h : c.StartsInVain s) :
    (c.step (.deliver s)).2 = [] ∧
      ((c.step (.deliver s)).1.phase = .idle ∨ (c.step (.deliver s)).1.phase = c.phase) := by
  have hout := step_outcome c (.deliver s)
  generalize c.step (.deliver s) = after at hout
  cases hout with
  | unheard | unmoved => exact ⟨rfl, .inr rfl⟩
  | emptied | failed => exact ⟨rfl, .inl rfl⟩
  | took hlaunch _ hmount | launched hlaunch _ hmount =>
    rcases h with hnone | hfailed
    · cases hlaunch.symm.trans hnone
    · simp [failure?, hlaunch, hmount, MountRequest.failure?] at hfailed

theorem deliver_of_not_startsInVain {c : Container H} {s : Snapshot} (h : ¬ c.StartsInVain s) :
    (c.step (.deliver s)).1.phase.generation? = some (c.generation + 1) := by
  have hout := step_outcome c (.deliver s)
  generalize c.step (.deliver s) = after at hout
  cases hout with
  | took | launched => rfl
  | failed hlaunch _ hmount =>
    exact absurd (.inr (by simp [failure?_of_failed hlaunch hmount])) h
  | unheard hheard => exact absurd (.inl (by simp [launch?, hheard])) h
  | unmoved _ htarget | emptied _ htarget => exact absurd (.inl (by simp [launch?, htarget])) h

end Container

namespace Board

variable {H : Type} {b : Board H} {id : PluginId} {generation : Nat} {r : DeactivationRequest}

/-- The plugin that is mounted was confirmed, and nothing was written over its confirmation. -/
structure Echoing (b : Board H) (id : PluginId) (generation : Nat) : Prop where
  mounted : b.container.phase = .mounted id generation
  active : b.store.snapshot.activation.active = some id
  selected : b.selection = some id

theorem Echoing.accepts (h : b.Echoing id generation) (hcoherent : b.container.Coherent)
    (hr : r.generation = generation) : b.container.accepts r = true := by
  have hup : b.container.tornDown = false := hcoherent.up (by rw [h.mounted]; simp)
  simp [Container.accepts, hup, h.mounted, Phase.generation?, hr]

variable [Adapter H]

/-- Nothing is mounted, nothing is being mounted and nothing is attached. -/
def AtRest (b : Board H) : Prop :=
  b.container.phase = .idle ∧ (Adapter.stage b.container.host).attached = []

/-- The board after a request for deactivation was handled and then the state delivered. -/
def handleFirst (b : Board H) (r : DeactivationRequest) : Board H :=
  b.run [.inside (.deactivate r), .deliver]

def deliverFirst (b : Board H) (r : DeactivationRequest) : Board H :=
  b.run [.deliver, .inside (.deactivate r)]

/-- In both orders the container comes to rest, over one and the same store. -/
def OrdersAgree (b : Board H) (r : DeactivationRequest) : Prop :=
  (b.handleFirst r).AtRest ∧ (b.deliverFirst r).AtRest ∧
    (b.handleFirst r).store = (b.deliverFirst r).store

/-! ### The two orders -/

theorem Echoing.container_handleFirst (h : b.Echoing id generation)
    (hcoherent : b.container.Coherent) (hr : r.generation = generation) :
    (b.handleFirst r).container =
        (b.container.deactivated.step (.deliver b.store.snapshot)).1 ∧
      (b.handleFirst r).store = b.store.dispatchAll
        (b.container.deactivated.step (.deliver b.store.snapshot)).2 := by
  have hdeactivated : b.container.onDeactivated r = b.container.deactivated := by
    rw [Container.onDeactivated_eq, if_pos (h.accepts hcoherent hr)]
  rw [← hdeactivated]
  exact ⟨rfl, rfl⟩

theorem container_deliverFirst (b : Board H) (r : DeactivationRequest) :
    (b.deliverFirst r).container =
        (b.container.step (.deliver b.store.snapshot)).1.onDeactivated r ∧
      (b.deliverFirst r).store =
        b.store.dispatchAll (b.container.step (.deliver b.store.snapshot)).2 := ⟨rfl, rfl⟩

theorem Echoing.handleFirst_idle_iff (h : b.Echoing id generation)
    (hcoherent : b.container.Coherent) (hr : r.generation = generation) :
    (b.handleFirst r).container.phase = .idle ↔
      b.container.deactivated.StartsInVain b.store.snapshot := by
  rw [(h.container_handleFirst hcoherent hr).1]
  constructor
  · intro hidle
    refine Classical.byContradiction fun hvain => ?_
    have hgeneration := Container.deliver_of_not_startsInVain hvain
    rw [hidle] at hgeneration
    cases hgeneration
  · intro hvain
    rcases (Container.deliver_of_startsInVain hvain).2 with hidle | hkept
    · exact hidle
    · exact hkept

/-- A request that comes after the delivery is ignored when the delivery mounted another plugin. -/
theorem Echoing.deliverFirst_idle_iff (h : b.Echoing id generation)
    (hcoherent : b.container.Coherent) (hr : r.generation = generation) :
    (b.deliverFirst r).container.phase = .idle ↔ b.container.StartsInVain b.store.snapshot := by
  rw [(container_deliverFirst b r).1, Container.onDeactivated_eq]
  constructor
  · intro hidle
    refine Classical.byContradiction fun hvain => ?_
    have hnext := Container.deliver_of_not_startsInVain hvain
    have hlatest : generation = b.container.generation :=
      hcoherent.latest generation (by rw [h.mounted]; rfl)
    have hignored :
        (b.container.step (.deliver b.store.snapshot)).1.accepts r = false := by
      simp [Container.accepts, hnext, hr, hlatest]
    rw [if_neg (by simp [hignored])] at hidle
    rw [hidle] at hnext
    cases hnext
  · intro hvain
    split
    · rfl
    · rename_i hignored
      rcases (Container.deliver_of_startsInVain hvain).2 with hidle | hkept
      · exact hidle
      · have haccepts := h.accepts hcoherent hr
        have hup := b.container.step_tornDown (.deliver b.store.snapshot) (by simp)
        refine absurd ?_ hignored
        simp only [Container.accepts, hup, hkept]
        exact haccepts

/-! ### When the orders agree -/

def Event.KeepsStage : Event H → Prop
  | .inside e => e.KeepsStage
  | _ => True

theorem keepsStage_trail (b : Board H) {es : List (Event H)} (hes : ∀ e ∈ es, e.KeepsStage) :
    ∀ e ∈ b.trail es, e.KeepsStage := by
  induction es generalizing b with
  | nil => simp [trail]
  | cons e es ih =>
    intro e' he'
    rcases List.mem_append.1 he' with hnow | hlater
    · have he := hes e List.mem_cons_self
      cases e with
      | apply a => cases hnow
      | deliver => exact List.mem_singleton.1 hnow ▸ trivial
      | inside e => exact List.mem_singleton.1 hnow ▸ he
    · exact ih _ (fun e he => hes e (List.mem_cons_of_mem _ he)) e' hlater

theorem tidy_run [LawfulAdapter H] (h : b.container.Tidy) (hcoherent : b.container.Coherent)
    {es : List (Event H)} (hes : ∀ e ∈ es, e.KeepsStage) : (b.run es).container.Tidy := by
  rw [container_run]
  exact h.run hcoherent (b.keepsStage_trail hes)

theorem atRest_iff (h : b.container.Tidy) : b.AtRest ↔ b.container.phase = .idle := by
  refine ⟨And.left, fun hidle => ⟨hidle, ?_⟩⟩
  rw [h.stage.attached, hidle]
  rfl

theorem Echoing.ordersAgree_iff [LawfulAdapter H] (h : b.Echoing id generation)
    (htidy : b.container.Tidy) (hcoherent : b.container.Coherent) (hr : r.generation = generation) :
    b.OrdersAgree r ↔ b.container.StartsInVain b.store.snapshot ∧
      b.container.deactivated.StartsInVain b.store.snapshot := by
  have hhandled : (b.handleFirst r).container.Tidy :=
    tidy_run htidy hcoherent (by simp [Event.KeepsStage, Container.Event.KeepsStage])
  have hdelivered : (b.deliverFirst r).container.Tidy :=
    tidy_run htidy hcoherent (by simp [Event.KeepsStage, Container.Event.KeepsStage])
  unfold OrdersAgree
  rw [atRest_iff hhandled, atRest_iff hdelivered, h.handleFirst_idle_iff hcoherent hr,
    h.deliverFirst_idle_iff hcoherent hr]
  constructor
  · rintro ⟨hafter, hbefore, -⟩
    exact ⟨hbefore, hafter⟩
  · rintro ⟨hbefore, hafter⟩
    refine ⟨hafter, hbefore, ?_⟩
    -- Neither order lets the container say anything, so the store stays as it was.
    rw [(h.container_handleFirst hcoherent hr).2, (container_deliverFirst b r).2,
      (Container.deliver_of_startsInVain hafter).1, (Container.deliver_of_startsInVain hbefore).1]

/-- While the plugin is eligible, only the echo can bring it back: the delivery must not be news, or
must fail to mount the plugin again. -/
theorem Echoing.startsInVain_iff (h : b.Echoing id generation)
    (hid : id ∈ b.container.registry.eligibleIn b.store.snapshot) :
    b.container.StartsInVain b.store.snapshot ∧
        b.container.deactivated.StartsInVain b.store.snapshot ↔
      b.container.hears b.store.snapshot = false ∨
        (b.container.deactivated.failure? (.deliver b.store.snapshot)).isSome = true := by
  have htarget := Registry.target_of_selection h.selected hid
  obtain ⟨d, hd, -⟩ := Registry.exists_get?_of_target htarget
  have hbefore : b.container.StartsInVain b.store.snapshot :=
    .inl (by simp [Container.launch?, htarget, h.mounted, Phase.plugin?])
  have hlaunch : b.container.deactivated.launch? b.store.snapshot = none ↔
      b.container.hears b.store.snapshot = false := by
    change (if b.container.hears b.store.snapshot &&
      b.container.registry.target b.store.snapshot != none then
        (b.container.registry.target b.store.snapshot).bind b.container.registry.get? else none)
        = none ↔ _
    simp [htarget, hd]
  rw [and_iff_right hbefore, Container.StartsInVain, hlaunch]

/-- A deactivation and the echo of the confirmation may be handled in either order, to the same
effect, exactly when neither order makes the container mount a plugin for good. While the plugin is
still eligible that is so exactly when the echo is no news to the container or the plugin cannot be
mounted again. -/
theorem ordersAgree_run_iff [LawfulAdapter H] (registry : Registry) (host : H) (region : String)
    (s : Snapshot) (hhost : Adapter.stage host = .empty) {es : List (Event H)}
    (hes : ∀ e ∈ es, e.KeepsStage)
    (hecho : ((new registry host region s).run es).Echoing id generation)
    (hr : r.generation = generation) :
    let b := (new registry host region s).run es
    let state := b.store.snapshot
    (b.OrdersAgree r ↔
      b.container.StartsInVain state ∧ b.container.deactivated.StartsInVain state) ∧
    (id ∈ registry.eligibleIn state →
      (b.OrdersAgree r ↔ b.container.hears state = false ∨
        (b.container.deactivated.failure? (.deliver state)).isSome = true)) := by
  intro b state
  have hcoherent : b.container.Coherent := coherent_run (Container.coherent_new _ _ _) es
  have htidy : b.container.Tidy :=
    tidy_run (Container.tidy_new _ _ _ hhost) (Container.coherent_new _ _ _) hes
  have hagree := Echoing.ordersAgree_iff hecho htidy hcoherent hr
  have hregistry : b.container.registry = registry := registry_run _ es
  exact ⟨hagree, fun hid => hagree.trans (Echoing.startsInVain_iff hecho (hregistry.symm ▸ hid))⟩

/-- A board on which `a` is mounted and confirmed at once, over a given selection. -/
def confirmedOver (selection : Option PluginId) : Board Scripted :=
  (new (.plain .none [⟨"a"⟩] (by decide)) .empty "main"
    (.ofActivation ⟨[⟨"a"⟩], none, selection⟩)).run [.deliver]

theorem echoing_confirmedOver :
    (confirmedOver none).Echoing ⟨"a"⟩ 1 ∧ (confirmedOver (some ⟨"a"⟩)).Echoing ⟨"a"⟩ 1 :=
  ⟨⟨by decide, by decide, by decide⟩, ⟨by decide, by decide, by decide⟩⟩

/-- If nothing was selected before, the echo mounts the plugin that has asked to be torn down. -/
theorem echo_remounts :
    let b := confirmedOver none
    b.Echoing ⟨"a"⟩ 1 ∧ (b.handleFirst ⟨⟨"a"⟩, 1⟩).container.phase = .mounted ⟨"a"⟩ 3 ∧
      (b.deliverFirst ⟨⟨"a"⟩, 1⟩).AtRest ∧ ¬ b.OrdersAgree ⟨⟨"a"⟩, 1⟩ := by
  intro b
  have hremounted : (b.handleFirst ⟨⟨"a"⟩, 1⟩).container.phase = .mounted ⟨"a"⟩ 3 := by decide
  refine ⟨echoing_confirmedOver.1, hremounted, ⟨by decide, by decide⟩, fun hagree => ?_⟩
  exact absurd (hremounted.symm.trans hagree.1.1) (by decide)

/-- If the user had selected the plugin before, its echo is no news, and the orders agree. -/
theorem ordersAgree_run_selected :
    let b := confirmedOver (some ⟨"a"⟩)
    b.Echoing ⟨"a"⟩ 1 ∧ b.OrdersAgree ⟨⟨"a"⟩, 1⟩ := by
  have hdeliver : ∀ e ∈ [(.deliver : Event Scripted)], e.KeepsStage := by simp [Event.KeepsStage]
  have hagree := ordersAgree_run_iff (r := ⟨⟨"a"⟩, 1⟩) (.plain .none [⟨"a"⟩] (by decide))
    Scripted.empty "main" (.ofActivation ⟨[⟨"a"⟩], none, some ⟨"a"⟩⟩) rfl hdeliver
    echoing_confirmedOver.2 rfl
  exact ⟨echoing_confirmedOver.2, (hagree.2 (by decide)).2 (.inl (by decide))⟩

end Board

end Dashboard
