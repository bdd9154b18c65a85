import Dashboard.Store.Snapshot

/-!
# The store in memory

A store with subscribers. Only an action that changes the state wakes them, which is recorded as a
new version; a subscriber remembers the version it has seen.
-/

namespace Dashboard

/-- A shared state and the number of changes made to it. -/
structure MemoryStore where
  snapshot : Snapshot
  version : Nat
  deriving Inhabited

namespace MemoryStore

def ofSnapshot (s : Snapshot) : MemoryStore := ⟨s, 0⟩

def dispatch (m : MemoryStore) (a : Action) : MemoryStore :=
  let (snapshot, changed) := m.snapshot.reduce a
  if changed then ⟨snapshot, m.version + 1⟩ else ⟨snapshot, m.version⟩

def dispatchAll (m : MemoryStore) (actions : List Action) : MemoryStore :=
  actions.foldl dispatch m

theorem dispatch_eq (m : MemoryStore) (a : Action) :
    m.dispatch a = ⟨m.snapshot.apply a, m.version + (m.snapshot.changes a).toNat⟩ := by
  unfold dispatch Snapshot.apply Snapshot.changes
  rcases m.snapshot.reduce a with ⟨s, changed⟩
  cases changed <;> rfl

theorem snapshot_dispatch (m : MemoryStore) (a : Action) :
    (m.dispatch a).snapshot = m.snapshot.apply a := by
  rw [dispatch_eq]

end MemoryStore

end Dashboard
