import Dashboard.Data.Shape
import Dashboard.Toml.Value

/-!
# Layered configuration values

Configuration comes in layers: tables are merged key by key, and anything else in a stronger layer
takes the place of what a weaker layer says. The entries of a table are in key order. Integers from
documents are signed, and those from variables are unsigned unless they have a minus.
-/

namespace Dashboard

open Number Data

/-- A configuration value before it is read as typed data. -/
inductive ConfigTree where
  | null
  | boolean (value : Bool)
  | signed (value : Int)
  | unsigned (value : Nat)
  | float (value : Binary64)
  | string (value : String)
  | array (items : List ConfigTree)
  | table (entries : List (String × ConfigTree))
  deriving Inhabited

namespace ConfigTree

/-- The outermost layer of a value. -/
def shape : ConfigTree → Shape ConfigTree
  | null => .null
  | boolean b => .boolean b
  | signed n => .signed n
  | unsigned n => .unsigned n
  | float x => .float x
  | string s => .text s
  | array items => .sequence items
  | table entries => .mapping entries

mutual

/-- A value as JSON. Numbers that JSON does not have become null. -/
def toJson : ConfigTree → Json
  | null => .null
  | boolean b => .boolean b
  | signed n => .integer n
  | unsigned n => .integer n
  | float x => if x.isFinite then .float x else .null
  | string s => .string s
  | array items => .array (itemsToJson items)
  | table entries => .object (entriesToJson entries)

def itemsToJson : List ConfigTree → List Json
  | [] => []
  | v :: rest => v.toJson :: itemsToJson rest

def entriesToJson : List (String × ConfigTree) → List (String × Json)
  | [] => []
  | (k, v) :: rest => (k, v.toJson) :: entriesToJson rest

end

instance : Readable ConfigTree where
  shape := shape
  toJson := toJson
  refusesSurplus := false

mutual

def ofToml : Toml.Value → ConfigTree
  | .string s => .string s
  | .integer n => .signed n
  | .float x => .float x
  | .boolean b => .boolean b
  | .datetime d => .table [(Toml.Value.datetimeKey, .string d.text)]
  | .array items => .array (itemsOfToml items)
  | .table entries => .table (entriesOfToml entries)

def itemsOfToml : List Toml.Value → List ConfigTree
  | [] => []
  | v :: rest => ofToml v :: itemsOfToml rest

/-- The entries of a table of a document, in key order. -/
def entriesOfToml : List (String × Toml.Value) → List (String × ConfigTree)
  | [] => []
  | (k, v) :: rest => putEntry k (ofToml v) (entriesOfToml rest)

end

mutual

/-- The value that a weaker and a stronger layer give together. -/
def merge (weak : ConfigTree) : ConfigTree → ConfigTree
  | table strong =>
    match weak with
    | table entries => table (mergeEntries entries strong)
    | _ => table strong
  | strong => strong

/-- The entries of a table that a weaker and a stronger layer give together. -/
def mergeEntries (weak : List (String × ConfigTree)) :
    List (String × ConfigTree) → List (String × ConfigTree)
  | [] => weak
  | (k, v) :: rest =>
    let merged := match findEntry k weak with
      | some old => merge old v
      | none => v
    mergeEntries (putEntry k merged weak) rest

end

/-- What stands at a path of keys. Arrays are not entered. -/
def at? : List String → ConfigTree → Option ConfigTree
  | [], t => some t
  | k :: path, table entries => (findEntry k entries).bind (at? path)
  | _ :: _, _ => none

/-- The table with one value at a path of keys. -/
def nest : List String → ConfigTree → ConfigTree
  | [], t => t
  | k :: path, t => table [(k, nest path t)]

end ConfigTree

end Dashboard
