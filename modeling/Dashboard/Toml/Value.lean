import Dashboard.Data.Shape
import Dashboard.Toml.Datetime

/-!
# Values of a TOML document

The entries of a table are in the order of the document. To readers of typed data a date or time is
a table with its written form under a reserved key.
-/

namespace Dashboard.Toml

open Number Data

inductive Value where
  | string (value : String)
  | integer (value : Int)
  | float (value : Binary64)
  | boolean (value : Bool)
  | datetime (value : Datetime)
  | array (items : List Value)
  | table (entries : List (String × Value))
  deriving Inhabited

namespace Value

/-- The reserved key under which the written form of a date or time stands. -/
def datetimeKey : String := "$__toml_private_datetime"

/-- The outermost layer of a value. -/
def shape : Value → Shape Value
  | string s => .text s
  | integer n => .signed n
  | float x => .float x
  | boolean b => .boolean b
  | datetime d => .mapping [(datetimeKey, .string d.text)]
  | array items => .sequence items
  | table entries => .mapping entries

mutual

/-- A value as JSON. Numbers that JSON does not have become null. -/
def toJson : Value → Json
  | string s => .string s
  | integer n => .integer n
  | float x => if x.isFinite then .float x else .null
  | boolean b => .boolean b
  | datetime d => .object [(datetimeKey, .string d.text)]
  | array items => .array (itemsToJson items)
  | table entries => .ofMembers (entriesToJson entries)

def itemsToJson : List Value → List Json
  | [] => []
  | v :: rest => v.toJson :: itemsToJson rest

def entriesToJson : List (String × Value) → List (String × Json)
  | [] => []
  | (k, v) :: rest => (k, v.toJson) :: entriesToJson rest

end

instance : Readable Value where
  shape := shape
  toJson := toJson
  refusesSurplus := false

end Value

abbrev Entries := List (String × Value)

end Dashboard.Toml
