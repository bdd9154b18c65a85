import Dashboard.Data.Shape

/-!
# Reading typed data

A decoder turns a value of some format into typed data or reports the first thing that does not fit:
where it is and what is wrong with it. Structures are read field by field from a mapping, in the
order of its entries, or from a sequence that lists the fields in order.
-/

namespace Dashboard.Data

open Number

/-- What does not fit. -/
inductive Misfit where
  | invalidType (found : Found) (expected : String)
  | invalidValue (found : Found) (expected : String)
  | invalidLength (length : Nat) (expected : String)
  | missingField (name : String)
  | unknownField (name : String) (valid : List String)
  | unknownVariant (name : String) (valid : List String)
  deriving DecidableEq, Repr

/-- A misfit and the keys and indices that lead to it. -/
structure DecodeError where
  path : List String
  misfit : Misfit
  deriving DecidableEq, Repr

namespace DecodeError

def here (misfit : Misfit) : DecodeError := ⟨[], misfit⟩

/-- The same error seen from the value that holds `key`. -/
def below (key : String) (e : DecodeError) : DecodeError := ⟨key :: e.path, e.misfit⟩

end DecodeError

/-- `expected` and the alternatives, each between backquotes. -/
def alternatives : List String → String
  | [] => "there are no alternatives"
  | [a] => "expected `" ++ a ++ "`"
  | [a, b] => "expected `" ++ a ++ "` or `" ++ b ++ "`"
  | names => "expected one of " ++ ", ".intercalate (names.map fun n => "`" ++ n ++ "`")

/-- The wording of a misfit in JSON and TOML, given the text of floating-point numbers. -/
def Misfit.message (floatText : Binary64 → String) : Misfit → String
  | .invalidType found expected =>
    "invalid type: " ++ found.describe floatText ++ ", expected " ++ expected
  | .invalidValue found expected =>
    "invalid value: " ++ found.describe floatText ++ ", expected " ++ expected
  | .invalidLength length expected =>
    "invalid length " ++ String.ofList (digitsOf length) ++ ", expected " ++ expected
  | .missingField name => "missing field `" ++ name ++ "`"
  | .unknownField name valid => "unknown field `" ++ name ++ "`, " ++ alternatives valid
  | .unknownVariant name valid => "unknown variant `" ++ name ++ "`, " ++ alternatives valid

/-- Reads data of type `α` from values of format `σ`. -/
abbrev Decoder (σ α : Type) := σ → Except DecodeError α

namespace Decoder

variable {σ α : Type} [Readable σ]

/-- Fails because `v` is not what was expected. -/
def mismatch (v : σ) (expected : String) : Except DecodeError α :=
  .error (.here (.invalidType (Readable.shape v).found expected))

def text : Decoder σ String := fun v =>
  match Readable.shape v with
  | .text s => .ok s
  | _ => mismatch v "a string"

def boolean : Decoder σ Bool := fun v =>
  match Readable.shape v with
  | .boolean b => .ok b
  | _ => mismatch v "a boolean"

/-- Null for nothing, anything else as `d` reads it. -/
def optional (d : Decoder σ α) : Decoder σ (Option α) := fun v =>
  match Readable.shape v with
  | .null => .ok none
  | _ => some <$> d v

def json : Decoder σ Json := fun v => .ok (Readable.toJson v)

def items (d : Decoder σ α) : Nat → List σ → Except DecodeError (List α)
  | _, [] => .ok []
  | i, v :: rest =>
    match d v with
    | .error e => .error (e.below (String.ofList (digitsOf i)))
    | .ok a => (a :: ·) <$> items d (i + 1) rest

def list (d : Decoder σ α) : Decoder σ (List α) := fun v =>
  match Readable.shape v with
  | .sequence vs => items d 0 vs
  | _ => mismatch v "a sequence"

def addEntries (d : Decoder σ α) (m : KeyMap α) :
    List (String × σ) → Except DecodeError (KeyMap α)
  | [] => .ok m
  | (key, v) :: rest =>
    match d v with
    | .error e => .error (e.below key)
    | .ok a => addEntries d (m.insert key a) rest

def keyMap (d : Decoder σ α) : Decoder σ (KeyMap α) := fun v =>
  match Readable.shape v with
  | .mapping entries => addEntries d .empty entries
  | _ => mismatch v "a map"

def keySet : Decoder σ KeySet := fun v => KeySet.ofKeys <$> list text v

end Decoder

/-! ### Structures -/

inductive Presence where
  /-- The field must be given. -/
  | required
  /-- The field may be left out of a mapping, and then is empty, but not out of a sequence. -/
  | optional
  /-- The field may be left out and then has its default. -/
  | defaulted
  deriving DecidableEq, Repr

/-- A field of a structure of type `α`: `read` sets it from a value. -/
structure Field (σ α : Type) where
  name : String
  presence : Presence
  read : σ → α → Except DecodeError α

/-- How a structure of type `α` is read: its fields in order, whether other keys are refused, and
its value before any field is set. -/
structure Layout (σ α : Type) where
  name : String
  fields : List (Field σ α)
  strict : Bool
  initial : α

namespace Field

variable {σ α β : Type}

def of (name : String) (presence : Presence) (d : Decoder σ β) (set : α → β → α) : Field σ α :=
  ⟨name, presence, fun v a => set a <$> d v⟩

end Field

namespace Layout

variable {σ α : Type} [Readable σ]

def field? (l : Layout σ α) (name : String) : Option (Field σ α) :=
  l.fields.find? (·.name == name)

/-- Reads the entries of a mapping into `a`, in order. -/
def readEntries (l : Layout σ α) (a : α) : List (String × σ) → Except DecodeError α
  | [] => .ok a
  | (key, v) :: rest =>
    match l.field? key with
    | some f =>
      match f.read v a with
      | .error e => .error (e.below key)
      | .ok a => l.readEntries a rest
    | none =>
      if l.strict then .error ⟨[key], .unknownField key (l.fields.map (·.name))⟩
      else l.readEntries a rest

/-- Reads a mapping; a required field that no entry gives is missed after all entries are read. -/
def ofMapping (l : Layout σ α) (entries : List (String × σ)) : Except DecodeError α :=
  match l.readEntries l.initial entries with
  | .error e => .error e
  | .ok a =>
    match l.fields.find? fun f => f.presence == .required && !entries.any (·.1 == f.name) with
    | some f => .error (.here (.missingField f.name))
    | none => .ok a

/-- The structure and its number of fields, as messages name them. -/
def expectation (l : Layout σ α) : String :=
  let n := l.fields.length
  "struct " ++ l.name ++ " with " ++ String.ofList (digitsOf n)
    ++ (if n = 1 then " element" else " elements")

/-- Reads items into the fields `fs`, the first of which has the index `i`. -/
def readItems (expectation : String) : Nat → List (Field σ α) → List σ → α → Except DecodeError α
  | _, [], _, a => .ok a
  | i, f :: fs, v :: vs, a =>
    match f.read v a with
    | .error e => .error (e.below (String.ofList (digitsOf i)))
    | .ok a => readItems expectation (i + 1) fs vs a
  | i, f :: fs, [], a =>
    if f.presence == .defaulted then readItems expectation (i + 1) fs [] a
    else .error (.here (.invalidLength i expectation))

/-- Reads a sequence that lists the fields in order. -/
def ofSequence (l : Layout σ α) (vs : List σ) : Except DecodeError α :=
  match readItems l.expectation 0 l.fields vs l.initial with
  | .error e => .error e
  | .ok a =>
    if Readable.refusesSurplus σ && l.fields.length < vs.length then
      .error (.here (.invalidLength vs.length "fewer elements in array"))
    else .ok a

def decode (l : Layout σ α) : Decoder σ α := fun v =>
  match Readable.shape v with
  | .mapping entries => l.ofMapping entries
  | .sequence vs => l.ofSequence vs
  | _ => Decoder.mismatch v ("struct " ++ l.name)

end Layout

end Dashboard.Data
