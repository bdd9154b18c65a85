import Dashboard.Toml.Value

/-!
# Tables under construction

While a document is read, a table knows how it came about: under a header of its own, as part of a
longer header, or through a key with points. That decides what may still be added to it, since no
table may be defined twice.
-/

namespace Dashboard.Toml

/-- How a table came about. -/
inductive TableKind where
  /-- Under a header of its own, or between braces. -/
  | explicit
  /-- As part of the header of another table. -/
  | implicit
  /-- Through a key with points. -/
  | dotted
  deriving DecidableEq, Repr

/-- What stands under a key. -/
inductive Node where
  | value (v : Value)
  | table (kind : TableKind) (entries : List (String × Node))
  /-- Tables under repeated headers, oldest first. -/
  | tables (elements : List (List (String × Node)))

/-- The entries of a table under construction, in the order of the document. -/
abbrev Nodes := List (String × Node)

mutual

def Node.toValue : Node → Value
  | .value v => v
  | .table _ entries => .table (nodesToEntries entries)
  | .tables elements => .array (elementsToValues elements)

def nodesToEntries : List (String × Node) → List (String × Value)
  | [] => []
  | (k, n) :: rest => (k, n.toValue) :: nodesToEntries rest

def elementsToValues : List (List (String × Node)) → List Value
  | [] => []
  | entries :: rest => .table (nodesToEntries entries) :: elementsToValues rest

end

/-- Changes what stands under a key; a new key comes last. -/
def alter (key : String) (change : Option Node → Option Node) : Nodes → Option Nodes
  | [] => (change none).map fun n => [(key, n)]
  | (k, n) :: rest =>
    if k = key then (change (some n)).map fun n => (k, n) :: rest
    else (alter key change rest).map ((k, n) :: ·)

/-- Puts a node under a new key, at the end. -/
def addNode (key : String) (node : Node) (nodes : Nodes) : Option Nodes :=
  alter key (fun | none => some node | some _ => none) nodes

/-- Changes the table at a path. Tables on the way that do not exist are made: dotted ones for a key
with points, implicit ones for a header. Of repeated tables the newest is meant. A key with points
may not lead through a table with a header of its own. -/
def within (dotted : Bool) (change : TableKind → Nodes → Option Nodes) :
    List String → TableKind → Nodes → Option Nodes
  | [], kind, nodes => change kind nodes
  | key :: path, _, nodes =>
    alter key (fun
      | none =>
        let kind : TableKind := if dotted then .dotted else .implicit
        (within dotted change path kind []).map (.table kind)
      | some (.value _) => none
      | some (.tables elements) =>
        match elements.getLast? with
        | none => none
        | some last =>
          (within dotted change path .explicit last).map fun last =>
            .tables (elements.dropLast ++ [last])
      | some (.table kind inner) =>
        if dotted && kind == .explicit then none
        else (within dotted change path kind inner).map (.table kind)) nodes

/-- Adds the value of a key to a table. With points in the key, the table that holds the last part
must itself have come about that way. -/
def addValue (key : List String) (v : Value) (nodes : Nodes) : Option Nodes :=
  match key.getLast? with
  | none => none
  | some last =>
    let path := key.dropLast
    within true
      (fun kind nodes =>
        if path.isEmpty || kind == .dotted then addNode last (.value v) nodes else none)
      path .explicit nodes

def addValues : List (List String × Value) → Nodes → Option Nodes
  | [], nodes => some nodes
  | (key, v) :: rest, nodes => (addValue key v nodes).bind (addValues rest)

def braceEntries (pairs : List (List String × Value)) : Option Entries :=
  (addValues pairs []).map nodesToEntries

end Dashboard.Toml
