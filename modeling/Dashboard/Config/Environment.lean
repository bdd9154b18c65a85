import Dashboard.Config.Tree
import Dashboard.Text.Ascii
import Dashboard.Text.Blank
import Dashboard.Text.Split
import Dashboard.Toml.Lexical

/-!
# Configuration from variables

Variables of the environment whose names start with the prefix of the dashboard set single keys. The
rest of the name, in small letters, begins with the section; since keys contain underscores
themselves, only the underscore after the section is a separator. The value is written much like a
value of a document, and one that cannot be read that way is a string as it stands.
-/

namespace Dashboard

open Number Data

namespace Environment

/-! ### Names -/

/-- What the names of the variables start with, in any case. -/
def nameStart : String := "PLUGBOARD_"

/-- What a name starts with for each section, and the path of the section. Longer beginnings come
first. -/
def sectionStarts : List (String × String) :=
  [("flags_values_", "flags.values."), ("dashboard_", "dashboard."),
   ("activation_", "activation."), ("plugins_", "plugins."), ("flags_", "flags.")]

def stripStart? (start s : List Char) : Option (List Char) :=
  if start.isPrefixOf s then some (s.drop start.length) else none

/-- Replaces the first matching beginning by the path of its section. -/
def replaceStart (key : List Char) : List (String × String) → List Char
  | [] => key
  | (start, path) :: rest =>
    match stripStart? start.toList key with
    | some tail => path.toList ++ tail
    | none => replaceStart key rest

/-- The key that a name without the prefix stands for, as a path with points. -/
def key (name : String) : String :=
  String.ofList (replaceStart (Text.lowerAscii name).toList sectionStarts)

/-- The path of keys that a variable sets, if it is one of the dashboard's. -/
def path? (name : String) : Option (List String) :=
  let chars := Text.trim name.toList
  if Text.eqIgnoringCase (String.ofList (chars.take nameStart.length)) nameStart then
    let rest := chars.drop nameStart.length
    let parts := Text.split '.' (Text.trim (key (String.ofList rest)).toList)
    if parts.any List.isEmpty then none else some (parts.map String.ofList)
  else none

/-! ### Values -/

/-- The blanks that may stand around a value. -/
def isValueBlank (c : Char) : Bool :=
  c == ' ' || c == '\t' || c == '\n' || c == '\x0c' || c == '\r'

def skipValueBlanks (s : List Char) : List Char := s.dropWhile isValueBlank

/-- Whether a character ends a value without quotes. -/
def isSeparator (c : Char) : Bool :=
  c == ',' || c == '\x7b' || c == '\x7d' || c == '[' || c == ']'

/-- A number without sign, of 64 bits. -/
def unsigned? (s : List Char) : Option Nat :=
  let digits := match s with
    | '+' :: rest => rest
    | s => s
  if digits.isEmpty || !digits.all Char.isDigit then none
  else
    let n := Toml.digitsValue 10 digits
    if n < UInt64.size then some n else none

/-- A number with a sign, of 64 bits. -/
def signed? (s : List Char) : Option Int :=
  let (negative, digits) := Toml.sign s
  if digits.isEmpty || !digits.all Char.isDigit then none
  else
    let n : Int := Toml.digitsValue 10 digits
    Toml.inRange (if negative then -n else n)

/-- The exponent at the end of a number: nothing, or a letter with a signed number. -/
def exponent? : List Char → Option Int
  | [] => some 0
  | c :: s =>
    let (negative, digits) := Toml.sign s
    if (c == 'e' || c == 'E') && !digits.isEmpty && digits.all Char.isDigit then
      let n : Int := Toml.digitsValue 10 digits
      some (if negative then -n else n)
    else none

/-- A number with a point, which has digits on at least one side. -/
def float? (s : List Char) : Option Binary64 :=
  let (negative, s) := Toml.sign s
  let whole := s.takeWhile Char.isDigit
  match s.drop whole.length with
  | '.' :: rest =>
    let fraction := rest.takeWhile Char.isDigit
    if whole.isEmpty && fraction.isEmpty then none
    else (exponent? (rest.drop fraction.length)).map fun e =>
      .ofDecimal negative (Toml.digitsValue 10 (whole ++ fraction)) (e - fraction.length)
  | _ => none

/-- A value without quotes: a number if it reads as one, else a string. -/
def plainValue (s : List Char) : ConfigTree :=
  match float? s with
  | some x => .float x
  | none =>
    match unsigned? s with
    | some n => .unsigned n
    | none =>
      match signed? s with
      | some n => .signed n
      | none => .string (String.ofList s)

/-- Takes the items of an array or table up to the closing bracket. A comma may follow the last
one. -/
def readItems {α : Type} (item : Toml.Reader α) (close : Char) : Nat → Toml.Reader (List α)
  | 0, _ => none
  | fuel + 1, s =>
    match Toml.after? close s with
    | some rest => some ([], rest)
    | none =>
      match item s with
      | none => none
      | some (a, ',' :: rest) =>
        match readItems item close fuel rest with
        | some (as, rest) => some (a :: as, rest)
        | none => none
      | some (a, rest) => (Toml.after? close rest).map fun rest => ([a], rest)

/-- Takes a key of a table, with blanks around it and an equals sign behind. -/
def readKey : Toml.Reader String := fun s =>
  let named : Option (String × List Char) :=
    match skipValueBlanks s with
    | '"' :: s => Toml.basicTail (s.length + 1) [] s
    | s =>
      let word := s.takeWhile Toml.isBareChar
      if word.isEmpty then none else some (String.ofList word, s.drop word.length)
  named.bind fun (k, rest) =>
    (Toml.after? '=' (skipValueBlanks rest)).map fun rest => (k, rest)

def readEntry (value : Toml.Reader ConfigTree) : Toml.Reader (String × ConfigTree) := fun s =>
  (readKey s).bind fun (k, rest) => (value rest).map fun (v, rest) => ((k, v), rest)

/-- Takes a value with blanks around it, in which arrays and tables are nested at most `depth`
deep. -/
def readValue : Nat → Toml.Reader ConfigTree
  | 0, _ => none
  | depth + 1, s =>
    let s := skipValueBlanks s
    let taken : Option (ConfigTree × List Char) :=
      match Toml.word? "true" s with
      | some rest => some (.boolean true, rest)
      | none =>
        match Toml.word? "false" s with
        | some rest => some (.boolean false, rest)
        | none =>
          match s with
          | '\x7b' :: rest =>
            (readItems (readEntry (readValue depth)) '\x7d' (rest.length + 1) rest).map
              fun (entries, rest) =>
                (.table (entries.foldl (fun m e => putEntry e.1 e.2 m) []), rest)
          | '[' :: rest =>
            (readItems (readValue depth) ']' (rest.length + 1) rest).map
              fun (items, rest) => (.array items, rest)
          | '"' :: rest =>
            (Toml.basicTail (rest.length + 1) [] rest).map fun (t, rest) => (.string t, rest)
          | '\'' :: c :: '\'' :: rest => some (.string (String.singleton c), rest)
          | '\'' :: _ => none
          | s =>
            let word := s.takeWhile fun c => !isSeparator c
            some (plainValue (Text.trim word), s.drop word.length)
    taken.map fun (v, rest) => (v, skipValueBlanks rest)

def value (text : String) : ConfigTree :=
  let s := text.toList
  match readValue (s.length + 1) s with
  | some (v, []) => v
  | _ => .string text

/-! ### The layer of the environment -/

/-- What the variables say together, in the order in which the process lists them: of two whose
names stand for one key the later one wins. -/
def tree (env : List (String × String)) : ConfigTree :=
  env.foldl (fun t e =>
    match path? e.1 with
    | some path => t.merge (.nest path (value e.2))
    | none => t) (.table [])

end Environment

end Dashboard
