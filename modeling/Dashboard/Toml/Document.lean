import Dashboard.Toml.Syntax

/-!
# TOML documents

A document is built section by section. A header may name a table that so far exists only as part of
longer headers: the table is then taken out, keeps what it has, and comes back behind the others. No
other table is named twice, except that a repeated header in double brackets adds another table.
-/

namespace Dashboard.Toml

/-- Takes a table that is only implicit out of the entries of its parent: the remaining entries and
those of the table. A table that does not exist is empty. -/
def takeImplicit (key : String) (nodes : Nodes) : Option (Nodes × Nodes) :=
  match nodes.find? (·.1 = key) with
  | none => some (nodes, [])
  | some (_, .table .implicit inner) => some (nodes.filter (·.1 ≠ key), inner)
  | some _ => none

def addTable (key : String) (pairs : List (List String × Value)) (nodes : Nodes) :
    Option Nodes := do
  let (nodes, inner) ← takeImplicit key nodes
  let inner ← addValues pairs inner
  addNode key (.table .explicit inner) nodes

def addElement (key : String) (pairs : List (List String × Value)) (nodes : Nodes) :
    Option Nodes := do
  let inner ← addValues pairs []
  alter key (fun
    | none => some (.tables [inner])
    | some (.tables elements) => some (.tables (elements ++ [inner]))
    | some _ => none) nodes

def addSection (nodes : Nodes) (s : Section) : Option Nodes :=
  match s.header with
  | .root => addValues s.pairs nodes
  | .table path =>
    path.getLast?.bind fun key =>
      within false (fun _ inner => addTable key s.pairs inner) path.dropLast .explicit nodes
  | .element path =>
    path.getLast?.bind fun key =>
      within false (fun _ inner => addElement key s.pairs inner) path.dropLast .explicit nodes

/-- The document with the given text, or nothing if the text is not TOML. -/
def parse? (text : String) : Option Entries := do
  let nodes ← (← sections text).foldlM addSection []
  some (nodesToEntries nodes)

end Dashboard.Toml
