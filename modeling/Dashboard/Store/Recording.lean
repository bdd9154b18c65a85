import Dashboard.Store.Snapshot

/-!
# The recording store

A store that keeps a log of what the container dispatches. What the rest of the application applies
is not logged. Every change from either side counts as a new version.
-/

namespace Dashboard

/-- A state, the log of dispatched actions and the number of changes. -/
structure RecordingStore where
  snapshot : Snapshot
  dispatched : List Action
  /-- The number of changes, in 64 bits: fewer than 2 ^ 64 changes are assumed. -/
  version : Nat
  deriving Inhabited

namespace RecordingStore

def ofSnapshot (s : Snapshot) : RecordingStore := ⟨s, [], 0⟩

/-- Applies an action for another part of the application, and says whether anything changed. -/
def apply (r : RecordingStore) (a : Action) : RecordingStore × Bool :=
  let (snapshot, changed) := r.snapshot.reduce a
  ({ r with snapshot := snapshot, version := if changed then r.version + 1 else r.version },
    changed)

theorem apply_eq (r : RecordingStore) (a : Action) :
    r.apply a = (⟨r.snapshot.apply a, r.dispatched, r.version + (r.snapshot.changes a).toNat⟩,
      r.snapshot.changes a) := by
  unfold apply Snapshot.apply Snapshot.changes
  rcases r.snapshot.reduce a with ⟨s, changed⟩
  cases changed <;> rfl

def dispatch (r : RecordingStore) (a : Action) : RecordingStore :=
  ({ r with dispatched := r.dispatched ++ [a] }.apply a).1

def dispatchAll (r : RecordingStore) (actions : List Action) : RecordingStore :=
  actions.foldl dispatch r

/-- The plugins that dispatched actions confirm as mounted, in order. -/
def activeChanges (r : RecordingStore) : List PluginId :=
  r.dispatched.filterMap fun
    | .activated id => some id
    | _ => none

end RecordingStore

end Dashboard
