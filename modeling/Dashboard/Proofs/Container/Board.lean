import Dashboard.Container.Session
import Dashboard.Proofs.Container.Target

/-!
# A container and its store

The container dispatches into the store that it is fed from, so its own confirmations come back to
it as states of the store. A board is a container together with that store; in between, the rest of
the application applies actions to the store, and nothing says how soon a state of the store is
delivered or in which order with the mounts that settle.
-/

namespace Dashboard

/-- A container, the store it dispatches into, and the state it was told last. -/
structure Board (H : Type) where
  store : RecordingStore
  container : Container H
  told : Option Snapshot

namespace Board

variable {H : Type}

def new (registry : Registry) (host : H) (region : String) (s : Snapshot) : Board H where
  store := .ofSnapshot s
  container := .new registry host region
  told := none

/-- The plugin that the user chose last, as the store has it. -/
def selection (b : Board H) : Option PluginId := b.store.snapshot.activation.selection

/-- What can happen on a board. -/
inductive Event (H : Type) where
  /-- Another part of the application applies an action to the store. -/
  | apply (a : Action)
  | deliver
  /-- Something else happens to the container. -/
  | inside (e : Container.Event H)

/-- What an event is to the container. -/
def inner? (b : Board H) : Event H → Option (Container.Event H)
  | .apply _ => none
  | .deliver => some (.deliver b.store.snapshot)
  | .inside e => some e

variable [Adapter H]

/-- Lets something happen to the container; the store hears what it says. -/
def inner (b : Board H) (e : Container.Event H) : Board H where
  store := b.store.dispatchAll (b.container.step e).2
  container := (b.container.step e).1
  told := e.delivered?.or b.told

def step (b : Board H) : Event H → Board H
  | .apply a => { b with store := (b.store.apply a).1 }
  | .deliver => b.inner (.deliver b.store.snapshot)
  | .inside e => b.inner e

def run (b : Board H) (es : List (Event H)) : Board H := es.foldl step b

@[simp] theorem run_nil (b : Board H) : b.run [] = b := rfl

@[simp] theorem run_cons (b : Board H) (e : Event H) (es : List (Event H)) :
    b.run (e :: es) = (b.step e).run es := rfl

theorem run_append (b : Board H) (es fs : List (Event H)) :
    b.run (es ++ fs) = (b.run es).run fs := by
  simp [run]

/-! ### The container's part of a run -/

/-- What happens to the container during some events. -/
def trail (b : Board H) : List (Event H) → List (Container.Event H)
  | [] => []
  | e :: es => (b.inner? e).toList ++ (b.step e).trail es

theorem container_run (b : Board H) (es : List (Event H)) :
    (b.run es).container = b.container.run (b.trail es) := by
  induction es generalizing b with
  | nil => rfl
  | cons e es ih =>
    rw [run_cons, ih, trail, Container.run_append]
    cases e <;> rfl

theorem told_run (b : Board H) (es : List (Event H)) :
    (b.run es).told = (Container.lastDelivered (b.trail es)).or b.told := by
  induction es generalizing b with
  | nil => rfl
  | cons e es ih =>
    rw [run_cons, ih]
    cases e with
    | apply a => rfl
    | deliver =>
      change _ = (Container.lastDelivered (_ :: (b.step .deliver).trail es)).or b.told
      rw [Container.lastDelivered_cons, Option.or_assoc]
      rfl
    | inside e =>
      change _ = (Container.lastDelivered (_ :: (b.step (.inside e)).trail es)).or b.told
      rw [Container.lastDelivered_cons, Option.or_assoc]
      rfl

theorem registry_run (b : Board H) (es : List (Event H)) :
    (b.run es).container.registry = b.container.registry := by
  rw [container_run, Container.run_registry]

theorem coherent_run {b : Board H} (h : b.container.Coherent) (es : List (Event H)) :
    (b.run es).container.Coherent := by
  rw [container_run]
  exact h.run (b.trail es)

theorem onTarget_run {b : Board H} {lost : PluginId → Prop}
    (h : b.container.OnTarget b.told lost) (hpure : b.container.registry.IsPure)
    (es : List (Event H)) :
    (b.run es).container.OnTarget (b.run es).told fun id =>
      b.container.LostSince id (b.trail es) ∨
        b.container.hearsNews (b.trail es) = false ∧ lost id := by
  rw [container_run, told_run]
  exact h.run hpure (b.trail es)

/-! ### What reaches the store -/

def confirms? (b : Board H) (e : Event H) : Option PluginId :=
  (b.inner? e).bind b.container.confirms?

/-- The plugins that the container confirms during some events, in order. -/
def confirmed (b : Board H) : List (Event H) → List PluginId
  | [] => []
  | e :: es => (b.confirms? e).toList ++ (b.step e).confirmed es

/-- The states of the store before, between and after some events. -/
def states (b : Board H) : List (Event H) → List Snapshot
  | [] => [b.store.snapshot]
  | e :: es => b.store.snapshot :: (b.step e).states es

/-- The selection is changed by other parts of the application only where they say so. -/
def Event.KeepsSelection : Event H → Prop
  | .apply (.activated _) => False
  | .apply (.selected _) => False
  | _ => True

theorem snapshot_dispatchAll_toList (store : RecordingStore) (id? : Option PluginId) :
    (store.dispatchAll (id?.toList.map .activated)).snapshot.activation.selection =
      id?.or store.snapshot.activation.selection := by
  cases id? <;> rfl

theorem selection_inner (b : Board H) (e : Container.Event H) :
    (b.inner e).selection = (b.container.confirms? e).or b.selection := by
  simp only [selection, inner, Container.said_step, snapshot_dispatchAll_toList]

theorem selection_step (b : Board H) {e : Event H} (he : e.KeepsSelection) :
    (b.step e).selection = (b.confirms? e).or b.selection := by
  cases e with
  | deliver => exact selection_inner b _
  | inside e => exact selection_inner b e
  | apply a =>
    cases a with
    | activated | selected => exact he.elim
    | listed | flagsChanged | settingsChanged =>
      simp only [selection, step, RecordingStore.apply, Snapshot.reduce]
      split <;> rfl

/-- The selection is the plugin confirmed last, or the one that was selected before. -/
theorem selection_run (b : Board H) {es : List (Event H)} (hes : ∀ e ∈ es, e.KeepsSelection) :
    (b.run es).selection = (b.confirmed es).getLast?.or b.selection := by
  induction es generalizing b with
  | nil => rfl
  | cons e es ih =>
    rw [run_cons, ih _ fun e' he' => hes e' (List.mem_cons_of_mem e he'),
      selection_step b (hes e List.mem_cons_self), confirmed, List.getLast?_append,
      ← Option.or_assoc]
    cases b.confirms? e <;> rfl

end Board

end Dashboard
