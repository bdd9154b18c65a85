import Dashboard.Plugin.Catalog

/-!
# The shared registry

One table of plugins serves all threads. A table never changes once it was made. To register a
plugin, a thread copies the published table, adds the plugin to the copy, and publishes the copy
provided that the table it had copied is still the published one; otherwise it starts over with the
newer one. A plugin that is refused leaves the table as it is, and the same table is published
again. Readers keep the table that was published when they looked.
-/

namespace Dashboard

/-- A call that registers a plugin, as far as it has come. -/
inductive Registration where
  /-- The call is about to look at the published table. -/
  | begun (d : Descriptor)
  /-- The plugin was tried on the table at `seen`. The table at `next` came of it, and the outcome
  that the call will return if that is published. -/
  | tried (d : Descriptor) (seen next : Nat) (outcome : Except PluginError Unit)
  | returned (d : Descriptor) (outcome : Except PluginError Unit)

def Registration.given : Registration → Descriptor
  | begun d => d
  | tried d _ _ _ => d
  | returned d _ => d

/-- What a call was given and what it has returned. -/
def Registration.result? : Registration → Option (Descriptor × Except PluginError Unit)
  | returned d outcome => some (d, outcome)
  | _ => none

/-- The shared registry and the calls that work on it. -/
structure Shared where
  /-- All tables that were ever made. A table is known by its place here. -/
  tables : List Registry
  /-- The place of the published table. -/
  published : Nat
  registrations : List Registration
  /-- The places of the tables that readers have kept, in the order in which they were taken. -/
  snapshots : List Nat

namespace Shared

/-- An empty table that no one has used. -/
def new : Shared := ⟨[.empty], 0, [], []⟩

/-- The table at a place. -/
def table (s : Shared) (place : Nat) : Registry := s.tables.getD place .empty

def current (s : Shared) : Registry := s.table s.published

def list (s : Shared) : List PluginId := s.current.ids

def get? (s : Shared) (id : PluginId) : Option Descriptor := s.current.get? id

/-- What a call was given and what it has returned. -/
def returned? (s : Shared) (call : Nat) : Option (Descriptor × Except PluginError Unit) :=
  s.registrations[call]?.bind Registration.result?

/-! ### The steps of a call -/

def call (s : Shared) (d : Descriptor) : Shared :=
  { s with registrations := s.registrations ++ [.begun d] }

/-- A call looks at the published table and tries its plugin on it. -/
def load (s : Shared) (call : Nat) : Shared :=
  match s.registrations[call]? with
  | some (.begun d) =>
    match s.current.register d with
    | .ok next =>
      { s with
        tables := s.tables ++ [next]
        registrations :=
          s.registrations.set call (.tried d s.published s.tables.length (.ok ())) }
    | .error e =>
      { s with
        registrations := s.registrations.set call (.tried d s.published s.published (.error e)) }
  | _ => s

/-- A call publishes what it made, unless another table was published in the meantime: then it
starts over. -/
def publish (s : Shared) (call : Nat) : Shared :=
  match s.registrations[call]? with
  | some (.tried d seen next outcome) =>
    if seen = s.published then
      { s with published := next, registrations := s.registrations.set call (.returned d outcome) }
    else { s with registrations := s.registrations.set call (.begun d) }
  | _ => s

/-- A reader keeps the published table. -/
def takeSnapshot (s : Shared) : Shared := { s with snapshots := s.snapshots ++ [s.published] }

def reset (s : Shared) : Shared :=
  { s with tables := s.tables ++ [.empty], published := s.tables.length }

/-! ### Registering from one thread -/

/-- Registers a plugin while no other thread does. -/
def register (s : Shared) (d : Descriptor) : Shared × Except PluginError Unit :=
  let n := s.registrations.length
  let s := ((s.call d).load n).publish n
  (s, ((s.returned? n).map Prod.snd).getD (.ok ()))

/-- Registers descriptors in order up to the first one that is refused. -/
def registerAll (s : Shared) : List Descriptor → Shared × Except PluginError Unit
  | [] => (s, .ok ())
  | d :: rest =>
    match s.register d with
    | (s, .ok ()) => s.registerAll rest
    | (s, .error e) => (s, .error e)

/-- Registers the catalog and says how many plugins it has, or which one was refused. -/
def registerCatalog (s : Shared) : Shared × Except PluginError Nat :=
  let (s, outcome) := s.registerAll catalog
  (s, outcome.map fun _ => catalog.length)

end Shared

end Dashboard
