import Dashboard.Data.KeyMap
import Dashboard.Number.Binary64

/-!
# JSON values

Settings hold arbitrary JSON values. Integers and floating-point numbers are different values, also
when they denote the same number. The entries of an object that is looked up or compared are kept in
key order; `Json.ofMembers` builds such an object.
-/

namespace Dashboard

open Number Data

inductive Json where
  | null
  | boolean (value : Bool)
  | integer (value : Int)
  | float (value : Binary64)
  | string (value : String)
  | array (items : List Json)
  | object (entries : List (String × Json))
  deriving Repr, Inhabited

namespace Json

/-- The object with the given members in key order; of two under one key the later one stays. -/
def ofMembers (members : List (String × Json)) : Json :=
  object (members.foldl (fun entries m => putEntry m.1 m.2 entries) [])

def ofMap {α : Type} (encode : α → Json) (m : KeyMap α) : Json :=
  object (m.entries.map fun e => (e.1, encode e.2))

def ofOption (text : Option String) : Json := text.elim null string

mutual

/-- Equality of values: numbers by value within their kind, and the rest part by part. -/
def same : Json → Json → Bool
  | null, null => true
  | boolean a, boolean b => a == b
  | integer a, integer b => a == b
  | float a, float b => a.same b
  | string a, string b => a == b
  | array a, array b => sameItems a b
  | object a, object b => sameEntries a b
  | _, _ => false

def sameItems : List Json → List Json → Bool
  | [], [] => true
  | a :: as, b :: bs => a.same b && sameItems as bs
  | _, _ => false

def sameEntries : List (String × Json) → List (String × Json) → Bool
  | [], [] => true
  | (k, a) :: as, (l, b) :: bs => k == l && a.same b && sameEntries as bs
  | _, _ => false

end

end Json

end Dashboard
