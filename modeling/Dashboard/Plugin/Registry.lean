import Dashboard.Error
import Dashboard.Plugin.Descriptor

/-!
# The plugin registry

The identifiers in registration order and, apart from them, the descriptors by identifier. The order
is significant: without an eligible selection the first eligible plugin is shown. A registration is
never replaced or removed; a second one of the same identifier is refused.

What walks the descriptors looks every identifier of the order up and passes over one without a
descriptor. That this never happens, and that no descriptor stands outside of the order, is part of
the type: the two containers change together or not at all.
-/

namespace Dashboard

/-- The registered plugins. -/
structure Registry where
  /-- The registered identifiers, in registration order. -/
  ids : List PluginId
  /-- The descriptors under their identifiers. -/
  entries : List (PluginId × Descriptor)
  nodup : ids.Nodup
  /-- The order holds exactly the identifiers that have a descriptor. -/
  mem_ids : ∀ id, id ∈ ids ↔ (entries.lookup id).isSome = true
  /-- A descriptor stands under the identifier it carries. -/
  keyed : ∀ id d, entries.lookup id = some d → d.id = id

namespace Registry

def empty : Registry where
  ids := []
  entries := []
  nodup := List.nodup_nil
  mem_ids := by simp
  keyed := by simp

instance : Inhabited Registry := ⟨empty⟩

def get? (r : Registry) (id : PluginId) : Option Descriptor := r.entries.lookup id

def contains (r : Registry) (id : PluginId) : Bool := (r.entries.lookup id).isSome

/-- The descriptors in registration order. -/
def descriptors (r : Registry) : List Descriptor := r.ids.filterMap r.get?

def size (r : Registry) : Nat := r.ids.length

def isEmpty (r : Registry) : Bool := r.ids.isEmpty

/-- Forgets every registration. -/
def reset (_ : Registry) : Registry := empty

theorem contains_iff {r : Registry} {id : PluginId} : r.contains id = true ↔ id ∈ r.ids :=
  (r.mem_ids id).symm

theorem id_of_get? {r : Registry} {id : PluginId} {d : Descriptor} (h : r.get? id = some d) :
    d.id = id :=
  r.keyed id d h

theorem exists_get?_of_mem_ids {r : Registry} {id : PluginId} (h : id ∈ r.ids) :
    ∃ d, r.get? id = some d :=
  Option.isSome_iff_exists.1 ((r.mem_ids id).1 h)

/-- Adds a descriptor with a new identifier at the end. -/
def add (r : Registry) (d : Descriptor) (h : d.id ∉ r.ids) : Registry where
  ids := r.ids ++ [d.id]
  entries := (d.id, d) :: r.entries
  nodup := List.nodup_append.2
    ⟨r.nodup, by simp, fun id hid id' hid' heq =>
      h (List.mem_singleton.1 hid' ▸ heq ▸ hid)⟩
  mem_ids := by
    intro id
    by_cases hid : id = d.id
    · simp [hid]
    · have hne : (id == d.id) = false := by simpa using hid
      simp [List.lookup_cons, hne, hid, r.mem_ids id]
  keyed := by
    intro id e he
    by_cases hid : id = d.id
    · rw [List.lookup_cons, hid, beq_self_eq_true] at he
      rw [hid, ← Option.some.inj he]
    · have hne : (id == d.id) = false := by simpa using hid
      rw [List.lookup_cons, hne] at he
      exact r.keyed id e he

/-- Adds a descriptor at the end, unless its identifier is taken. -/
def register (r : Registry) (d : Descriptor) : Except PluginError Registry :=
  if h : r.contains d.id = true then .error (.duplicateId d.id)
  else .ok (r.add d (mt contains_iff.2 h))

/-- Registers descriptors in order up to the first one that is refused. The earlier ones stay
registered. -/
def registerAll (r : Registry) : List Descriptor → Registry × Except PluginError Unit
  | [] => (r, .ok ())
  | d :: rest =>
    match r.register d with
    | .ok r' => r'.registerAll rest
    | .error e => (r, .error e)

/-- Registers descriptors in order, passes over the ones that are refused, and counts the others. -/
def registerNew (r : Registry) : List Descriptor → Registry × Nat
  | [] => (r, 0)
  | d :: rest =>
    match r.register d with
    | .ok r' => let (final, n) := r'.registerNew rest; (final, n + 1)
    | .error _ => r.registerNew rest

/-- The registry of the given descriptors in order, or the first refusal. -/
def ofDescriptors (ds : List Descriptor) : Except PluginError Registry :=
  match empty.registerAll ds with
  | (r, .ok ()) => .ok r
  | (_, .error e) => .error e

end Registry

end Dashboard
