import Dashboard.Toml.Lexical

/-!
# Printing TOML documents

The layout for reading. The plain values of a table come before its sub-tables, and a table has a
header when it is empty or has plain values. An array of two or more items has an item to a line; an
array of nothing but tables is written under repeated headers. A string is written in the plainest
quotes that need no escapes.
-/

namespace Dashboard.Toml

open Number

/-! ### Strings -/

/-- The length of the longest run of `c` in a text, given the run it follows and the longest so
far. -/
def longestRun (c : Char) (run longest : Nat) : List Char → Nat
  | [] => max run longest
  | d :: s => if d = c then longestRun c (run + 1) longest s else longestRun c 0 (max run longest) s

/-- Whether a character can only be written as an escape. Tabs and line feeds have other ways. -/
def needsEscape (c : Char) : Bool :=
  (c.toNat < 0x20 && c != '\t' && c != '\n') || c.toNat == 0x7F

/-- Four hexadecimal digits, in capitals. -/
def hexCode (n : Nat) : List Char :=
  let digits := (Nat.toDigits 16 n).map Char.toUpper
  List.replicate (4 - digits.length) '0' ++ digits

/-- A character other than a quotation mark between double quotes. -/
def escapedChar (multiline : Bool) (c : Char) : List Char :=
  if c = '\x08' then ['\\', 'b']
  else if c = '\t' then ['\\', 't']
  else if c = '\n' then if multiline then ['\n'] else ['\\', 'n']
  else if c = '\x0c' then ['\\', 'f']
  else if c = '\r' then ['\\', 'r']
  else if c = '\\' then ['\\', '\\']
  else if needsEscape c then ['\\', 'u'] ++ hexCode c.toNat
  else [c]

/-- A text between double quotes; `quotes` marks have just been written as they are. On several
lines, every third mark of a run is escaped. -/
def escapedText (multiline : Bool) (quotes : Nat) : List Char → List Char
  | [] => []
  | '"' :: s =>
    if quotes < (if multiline then 2 else 0) then '"' :: escapedText multiline (quotes + 1) s
    else '\\' :: '"' :: escapedText multiline 0 s
  | c :: s => escapedChar multiline c ++ escapedText multiline 0 s

def basicString (s : List Char) : List Char := '"' :: escapedText false 0 s ++ ['"']

def literalString (s : List Char) : List Char := '\'' :: s ++ ['\'']

/-- A text between three quotes on either side; a text with line feeds starts on a line of its
own. -/
def multilineString (quote : Char) (s body : List Char) : List Char :=
  let mark := [quote, quote, quote]
  mark ++ (if s.contains '\n' then ['\n'] else []) ++ body ++ mark

/-- A string, in the first form that needs no escapes. -/
def stringText (text : String) : List Char :=
  let s := text.toList
  let escapes := s.any needsEscape
  let backslash := s.contains '\\'
  let newline := s.contains '\n'
  let double := longestRun '"' 0 0 s
  let single := longestRun '\'' 0 0 s
  if !escapes && !backslash && double == 0 && !newline then basicString s
  else if !escapes && single == 0 && !newline then literalString s
  else if !escapes && !backslash && double ≤ 2 then
    multilineString '"' s (escapedText true 0 s)
  else if !escapes && single ≤ 2 then multilineString '\'' s s
  else if newline then multilineString '"' s (escapedText true 0 s)
  else basicString s

/-- A key, without quotes where that is possible. -/
def keyText (text : String) : List Char :=
  let s := text.toList
  let escapes := s.any needsEscape || s.contains '\n'
  if !s.isEmpty && s.all isBareChar then s
  else if !escapes && !s.contains '\\' && !s.contains '"' then basicString s
  else if !escapes && !s.contains '\'' then literalString s
  else basicString s

/-- The key of a table, part by part. -/
def pathText (path : List String) : List Char :=
  List.intercalate ['.'] (path.map keyText)

/-! ### Values -/

def floatText (x : Binary64) : List Char :=
  if x.isNaN then if x.isNegative then "-nan".toList else "nan".toList
  else x.pointedText.toList

mutual

/-- A value on the right of an equals sign or within an array. -/
def valueText : Value → List Char
  | .string s => stringText s
  | .integer n => (integerText n).toList
  | .float x => floatText x
  | .boolean b => if b then "true".toList else "false".toList
  | .datetime d => d.text.toList
  | .array items =>
    match items with
    | [] => ['[', ']']
    | [v] => '[' :: valueText v ++ [']']
    | v :: rest => '[' :: itemLines (v :: rest) ++ ['\n', ']']
  | .table entries =>
    match entries with
    | [] => ['\x7b', '\x7d']
    | e :: rest => '\x7b' :: braceTexts (e :: rest) ++ [' ', '\x7d']

/-- Items, each on a line and with a comma. -/
def itemLines : List Value → List Char
  | [] => []
  | v :: rest => "\n    ".toList ++ valueText v ++ ',' :: itemLines rest

def braceTexts : List (String × Value) → List Char
  | [] => []
  | [(k, v)] => ' ' :: keyText k ++ " = ".toList ++ valueText v
  | (k, v) :: rest => ' ' :: keyText k ++ " = ".toList ++ valueText v ++ ',' :: braceTexts rest

end

/-! ### Tables -/

def Value.isTable : Value → Bool
  | .table _ => true
  | _ => false

/-- Whether a value is written next to its key, and not under headers. -/
def Value.isPlain : Value → Bool
  | .table _ => false
  | .array items => items.isEmpty || !items.all Value.isTable
  | _ => true

/-- A part of the document: its header line, if it has one, and the lines below. -/
structure Block where
  header : Option (List Char)
  body : List Char

def plainLines (entries : Entries) : List Char :=
  (entries.filter (·.2.isPlain)).flatMap fun e =>
    keyText e.1 ++ " = ".toList ++ valueText e.2 ++ ['\n']

def ownBlock (path : List String) (repeated : Bool) (entries : Entries) : List Block :=
  let body := plainLines entries
  if path.isEmpty then [⟨none, body⟩]
  else if repeated then [⟨some ("[[".toList ++ pathText path ++ "]]".toList), body⟩]
  else if entries.isEmpty || entries.any (·.2.isPlain) then
    [⟨some ('[' :: pathText path ++ [']']), body⟩]
  else []

mutual

/-- The parts of what stands under a key, if it is written under headers. -/
def valueBlocks (path : List String) : Value → List Block
  | .table entries => ownBlock path false entries ++ entryBlocks path entries
  | .array items => if (Value.array items).isPlain then [] else elementBlocks path items
  | _ => []

def entryBlocks (path : List String) : List (String × Value) → List Block
  | [] => []
  | (k, v) :: rest => valueBlocks (path ++ [k]) v ++ entryBlocks path rest

def elementBlocks (path : List String) : List Value → List Block
  | [] => []
  | v :: rest =>
    (match v with
      | .table entries => ownBlock path true entries ++ entryBlocks path entries
      | _ => []) ++ elementBlocks path rest

end

/-- Puts parts together, with an empty line in front of every header but the first. -/
def joinBlocks (first : Bool) : List Block → List Char
  | [] => []
  | ⟨none, body⟩ :: rest => body ++ joinBlocks (first && body.isEmpty) rest
  | ⟨some header, body⟩ :: rest =>
    (if first then [] else ['\n']) ++ header ++ '\n' :: body ++ joinBlocks false rest

def print (entries : Entries) : String :=
  String.ofList (joinBlocks true (ownBlock [] false entries ++ entryBlocks [] entries))

end Dashboard.Toml
