import Dashboard.Json.Basic
import Dashboard.Number.Numeral
import Dashboard.Text.Quoted

/-!
# The shape of a value

Typed data is read from JSON, from TOML documents and from merged configuration. What a reader needs
to know of a value is the same in all three: its outermost shape, its parts, and how to name it in a
message.
-/

namespace Dashboard.Data

open Number Text

/-- The outermost layer of a value whose parts have the type `σ`. -/
inductive Shape (σ : Type) where
  | null
  | boolean (value : Bool)
  | signed (value : Int)
  | unsigned (value : Nat)
  | float (value : Binary64)
  | text (value : String)
  | sequence (items : List σ)
  | mapping (entries : List (String × σ))

/-- What a message says was found. -/
inductive Found where
  | null
  | boolean (value : Bool)
  | signed (value : Int)
  | unsigned (value : Nat)
  | float (value : Binary64)
  | text (value : String)
  | sequence
  | mapping
  deriving DecidableEq, Repr

def Shape.found {σ : Type} : Shape σ → Found
  | .null => .null
  | .boolean b => .boolean b
  | .signed n => .signed n
  | .unsigned n => .unsigned n
  | .float x => .float x
  | .text s => .text s
  | .sequence _ => .sequence
  | .mapping _ => .mapping

/-- Formats from which typed data is read. -/
class Readable (σ : Type) where
  /-- The outermost layer of a value. -/
  shape : σ → Shape σ
  toJson : σ → Json
  /-- Whether a sequence in place of a structure may not have more items than the structure has
  fields. -/
  refusesSurplus : Bool

/-- JSON numbers that are integers count as unsigned unless they are negative. -/
def shapeOfJson : Json → Shape Json
  | .null => .null
  | .boolean b => .boolean b
  | .integer (.ofNat n) => .unsigned n
  | .integer (.negSucc n) => .signed (.negSucc n)
  | .float x => .float x
  | .string s => .text s
  | .array items => .sequence items
  | .object entries => .mapping entries

instance : Readable Json where
  shape := shapeOfJson
  toJson := id
  refusesSurplus := true

/-- How a message names what was found, given the text of floating-point numbers. -/
def Found.describe (floatText : Binary64 → String) : Found → String
  | .null => "null"
  | .boolean b => "boolean `" ++ (if b then "true" else "false") ++ "`"
  | .signed n => "integer `" ++ integerText n ++ "`"
  | .unsigned n => "integer `" ++ integerText n ++ "`"
  | .float x => "floating point `" ++ floatText x ++ "`"
  | .text s => "string " ++ quoted s
  | .sequence => "sequence"
  | .mapping => "map"

end Dashboard.Data
