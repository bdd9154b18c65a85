import Dashboard.Proofs.Container.Board

/-!
# What a container confirms

A container dispatches nothing but confirmations, one each time its phase becomes that of a mounted
plugin, whatever is done to it. This includes outcomes that are handed to it from outside, as those
of attempts that may never have been made. As nobody else confirms, the store's active plugin is the
one that is mounted.
-/

namespace Dashboard

/-- The plugin that is mounted when one phase gives way to another. -/
def Phase.entered? (before after : Phase) : Option PluginId :=
  if after = before then none else after.shown?

theorem Phase.entered?_self (p : Phase) : p.entered? p = none := if_pos rfl

theorem Phase.entered?_of_shown? {before after : Phase} (h : after.shown? = none) :
    before.entered? after = none := by
  unfold entered?
  split
  · rfl
  · exact h

theorem Phase.entered?_mounted {before : Phase} {id : PluginId} {g : Nat}
    (h : before ≠ .mounted id g) : before.entered? (.mounted id g) = some id :=
  if_neg (Ne.symm h)

namespace Container

/-- What can be done to a container: anything that happens to it, or handing it an outcome as that
of some attempt. -/
inductive Call (H : Type) where
  | event (e : Event H)
  | settle (generation : Nat) (result : MountResult)

variable {H : Type} [Adapter H]

def call (c : Container H) : Call H → Container H × List Action
  | .event e => c.step e
  | .settle generation result => c.settled generation result

theorem said_settled (c : Container H) (generation : Nat) (result : MountResult) :
    (c.settled generation result).2 =
      (c.phase.entered? (c.settled generation result).1.phase).toList.map .activated := by
  by_cases hawaits : ∃ id, c.Awaits generation id
  · obtain ⟨id, hawaits⟩ := hawaits
    have hphase := hawaits.2
    cases result with
    | ok i =>
      rw [settled_of_awaits_ok hawaits, Phase.entered?_mounted (by rw [hphase]; simp)]
      rfl
    | error e =>
      rw [settled_of_awaits_error hawaits, Phase.entered?_of_shown? rfl]
      rfl
  · have hstale : ∀ id, ¬ c.Awaits generation id := fun id h => hawaits ⟨id, h⟩
    have hphase : (c.discard result).phase = c.phase := by cases result <;> rfl
    rw [settled_of_not_awaits result hstale, hphase, Phase.entered?_self]
    rfl

theorem said_event (c : Container H) (e : Event H) :
    (c.step e).2 = (c.phase.entered? (c.step e).1.phase).toList.map .activated := by
  have hout := step_outcome c e
  generalize c.step e = after at hout
  -- A mount is launched only for a plugin that is not mounted yet.
  have hlaunched {s : Snapshot} {d : Descriptor} (hlaunch : c.launch? s = some d)
      (htarget : c.registry.target s = some d.id) (g : Nat) : c.phase ≠ .mounted d.id g := by
    intro hphase
    have hnone : c.launch? s = none := by
      simp [launch?, htarget, hphase, Phase.plugin?]
    cases hlaunch.symm.trans hnone
  cases hout with
  | took hlaunch htarget => rw [Phase.entered?_mounted (hlaunched hlaunch htarget _)]; rfl
  | confirmed _ hawaits => rw [Phase.entered?_mounted (by rw [hawaits.2]; simp)]; rfl
  | emptied | failed | launched | refused | deactivated | ended =>
    rw [Phase.entered?_of_shown? rfl]
    rfl
  | @stale _ host flights result =>
    have hphase : (discard { c with host := host, flights := flights } result).phase = c.phase := by
      cases result <;> rfl
    rw [hphase, Phase.entered?_self]
    rfl
  | _ =>
    change [] = (c.phase.entered? c.phase).toList.map Action.activated
    rw [Phase.entered?_self]
    rfl

end Container

namespace Board

variable {H : Type}

/-- What can be done on a board. -/
inductive Call (H : Type) where
  | event (e : Event H)
  | settle (generation : Nat) (result : MountResult)

/-- No one but the container says which plugin is active. -/
def Call.LeavesActive : Call H → Prop
  | .event (.apply (.activated _)) => False
  | _ => True

/-- What the container has dispatched so far, as the store has recorded it. -/
def dispatched (b : Board H) : List Action := b.store.dispatched

/-- The mounted plugin, if there is one, is the active plugin of the store. -/
def ShowsActive (b : Board H) : Prop :=
  ∀ id g, b.container.phase = .mounted id g → b.store.snapshot.activation.active = some id

variable [Adapter H]

/-- What a container answers to a call is dispatched into the store. -/
def call (b : Board H) : Call H → Board H
  | .event e => b.step e
  | .settle generation result =>
    { b with
      store := b.store.dispatchAll (b.container.settled generation result).2
      container := (b.container.settled generation result).1 }

def calls (b : Board H) (xs : List (Call H)) : Board H := xs.foldl call b

/-- What a call does to the store: another part of the application applies an action and the phase
stays, or the plugin that is mounted is confirmed. -/
theorem call_cases (b : Board H) (x : Call H) :
    (∃ a, x = .event (.apply a) ∧ b.call x = { b with store := (b.store.apply a).1 }) ∨
      (b.call x).store = b.store.dispatchAll
        ((b.container.phase.entered? (b.call x).container.phase).toList.map .activated) := by
  cases x with
  | settle generation result =>
    refine .inr ?_
    have hsaid := b.container.said_settled generation result
    simp only [call]
    rw [← hsaid]
  | event e =>
    cases e with
    | apply a => exact .inl ⟨a, rfl, rfl⟩
    | deliver =>
      refine .inr ?_
      have hsaid := b.container.said_event (.deliver b.store.snapshot)
      simp only [call, step, inner]
      rw [← hsaid]
    | inside e =>
      refine .inr ?_
      have hsaid := b.container.said_event e
      simp only [call, step, inner]
      rw [← hsaid]

theorem ShowsActive.call {b : Board H} (h : b.ShowsActive) {x : Call H} (hx : x.LeavesActive) :
    (b.call x).ShowsActive := by
  intro id g hphase
  rcases b.call_cases x with ⟨a, rfl, hcall⟩ | hstore
  · rw [hcall] at hphase ⊢
    have hactive := h id g hphase
    cases a with
    | activated => exact hx.elim
    | selected | listed | flagsChanged | settingsChanged =>
      simp only [RecordingStore.apply, Snapshot.reduce]
      split <;> exact hactive
  · rw [hstore, hphase]
    by_cases hbefore : b.container.phase = .mounted id g
    · rw [hbefore, Phase.entered?_self]
      exact h id g hbefore
    · rw [Phase.entered?_mounted hbefore]
      rfl

theorem ShowsActive.calls {b : Board H} (h : b.ShowsActive) {xs : List (Call H)}
    (hxs : ∀ x ∈ xs, x.LeavesActive) : (b.calls xs).ShowsActive := by
  induction xs generalizing b with
  | nil => exact h
  | cons x xs ih =>
    exact ih (h.call (hxs x List.mem_cons_self)) fun y hy => hxs y (List.mem_cons_of_mem x hy)

/-- A mount of `a` is superseded and settles, one of `b` is confirmed, a failure that nobody waits
for is handed in, and other parts of the application write to the store in between. -/
def busy : List (Call Scripted) :=
  [.event .deliver, .event (.apply (.selected ⟨"b"⟩)), .event .deliver,
    .event (.inside (.adapter fun h => (h.openGate ⟨"a"⟩ none).1)),
    .event (.apply (.listed [⟨"b"⟩, ⟨"a"⟩])), .event (.inside (.look ⟨1, ⟨⟨"a"⟩, 0⟩⟩)),
    .settle 2 (.error (.of ⟨"b"⟩ "too late")), .event (.apply (.selected ⟨"a"⟩))]

end Board

end Dashboard
