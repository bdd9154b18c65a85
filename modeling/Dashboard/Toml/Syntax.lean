import Dashboard.Toml.Lexical
import Dashboard.Toml.Tree

/-!
# The lines of a TOML document

Values with their nesting, and the document as a list of sections: a header, and the keys with their
values up to the next header. Arrays and tables between braces are nested less than eighty deep.
-/

namespace Dashboard.Toml

/-! ### Values -/

/-- Takes the items of an array up to its closing bracket. -/
def arrayItems (item : Reader Value) : Nat → Reader (List Value)
  | 0, _ => none
  | fuel + 1, s =>
    match skipFiller false s with
    | ']' :: rest => some ([], rest)
    | s =>
      match item s with
      | none => none
      | some (v, rest) =>
        match skipFiller false rest with
        | ']' :: rest => some ([v], rest)
        | ',' :: rest =>
          match arrayItems item fuel rest with
          | some (vs, rest) => some (v :: vs, rest)
          | none => none
        | _ => none

/-- Takes a key, its value and the spaces after it. -/
def keyValue (item : Reader Value) : Reader (List String × Value) := fun s =>
  match dottedKey s with
  | some (key, '=' :: rest) =>
    match item (skipSpace rest) with
    | some (v, rest) => some ((key, v), skipSpace rest)
    | none => none
  | _ => none

/-- Takes the keys of a table between braces up to its closing brace. -/
def bracePairs (item : Reader Value) : Nat → Reader (List (List String × Value))
  | 0, _ => none
  | fuel + 1, s =>
    match keyValue item s with
    | some (pair, '\x7d' :: rest) => some ([pair], rest)
    | some (pair, ',' :: rest) =>
      match bracePairs item fuel rest with
      | some (pairs, rest) => some (pair :: pairs, rest)
      | none => none
    | _ => none

/-- Takes a table between braces, behind the opening brace. -/
def braceTable (item : Reader Value) : Reader Value := fun s =>
  match skipSpace s with
  | '\x7d' :: rest => some (.table [], rest)
  | s =>
    match bracePairs item (s.length + 1) s with
    | some (pairs, rest) => (braceEntries pairs).map fun entries => (.table entries, rest)
    | none => none

/-- Takes a value in which arrays and tables are nested at most `depth` deep. -/
def value : Nat → Reader Value
  | 0, s => scalar s
  | depth + 1, s =>
    match s with
    | '[' :: rest =>
      (arrayItems (value depth) (rest.length + 1) rest).map fun (items, r) => (.array items, r)
    | '\x7b' :: rest => braceTable (value depth) rest
    | s => scalar s

/-- How deep arrays and tables between braces may be nested. -/
def nestingLimit : Nat := 79

/-! ### Sections -/

/-- What a section of a document fills. -/
inductive Header where
  | root
  | table (path : List String)
  /-- A new table at the end of those at a path. -/
  | element (path : List String)
  deriving DecidableEq, Repr

/-- A header and the keys below it. -/
structure Section where
  header : Header
  pairs : List (List String × Value)

/-- Takes a header line, behind the first bracket. -/
def headerLine : Reader Header
  | '[' :: s =>
    match dottedKey s with
    | some (path, ']' :: ']' :: rest) => (endOfLine? rest).map fun rest => (.element path, rest)
    | _ => none
  | s =>
    match dottedKey s with
    | some (path, ']' :: rest) => (endOfLine? rest).map fun rest => (.table path, rest)
    | _ => none

def pairLine : Reader (List String × Value) := fun s =>
  match keyValue (value nestingLimit) s with
  | some (pair, rest) => (endOfLine? rest).map fun rest => (pair, rest)
  | none => none

/-- The sections of the rest of a document, after the current header and its keys so far, which are
reversed. -/
def sectionsFrom : Nat → Header → List (List String × Value) → List Char → Option (List Section)
  | 0, _, _, _ => none
  | fuel + 1, header, pairs, s =>
    match skipSpace s with
    | [] => some [⟨header, pairs.reverse⟩]
    | '#' :: rest => (endOfLine? ('#' :: rest)).bind (sectionsFrom fuel header pairs)
    | '[' :: rest =>
      match headerLine rest with
      | none => none
      | some (next, rest) =>
        (sectionsFrom fuel next [] rest).map (⟨header, pairs.reverse⟩ :: ·)
    | s =>
      match newline? s with
      | some rest => sectionsFrom fuel header pairs rest
      | none =>
        match pairLine s with
        | none => none
        | some (pair, rest) => sectionsFrom fuel header (pair :: pairs) rest

def skipMark : List Char → List Char
  | '\uFEFF' :: s => s
  | s => s

/-- The sections of a document. The first one has no header. -/
def sections (text : String) : Option (List Section) :=
  let s := skipMark text.toList
  sectionsFrom (s.length + 1) .root [] s

end Dashboard.Toml
