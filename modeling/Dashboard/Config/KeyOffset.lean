import Dashboard.Text.Blank

/-!
# Where a key stands in a text

Diagnostics point at the offending key. The text is searched line by line for the first line that
starts with the key, after blanks, from the header of its section on; a key outside of sections is
searched for from the start. Offsets count bytes of UTF-8.
-/

namespace Dashboard

namespace KeyOffset

def byteLength (s : List Char) : Nat := s.foldl (fun n c => n + c.utf8Size) 0

/-- The text after the first occurrence of `pattern`, and the number of bytes up to there. -/
def afterFirst? (pattern : List Char) (skipped : Nat) : List Char → Option (Nat × List Char)
  | [] => if pattern.isEmpty then some (skipped, []) else none
  | c :: s =>
    if pattern.isPrefixOf (c :: s) then
      some (skipped + byteLength pattern, (c :: s).drop pattern.length)
    else afterFirst? pattern (skipped + c.utf8Size) s

/-- Whether a key ends here: a blank or an equals sign follows. -/
def endsKey : List Char → Bool
  | c :: _ => c == ' ' || c == '=' || c == '\t'
  | [] => false

/-- Whether `field` is the key at the start of a line. -/
def startsWithKey (field line : List Char) : Bool :=
  field.isPrefixOf line && endsKey (line.drop field.length)

/-- The first line and the text after it. A line includes its line feed. -/
def splitLine : List Char → List Char × List Char
  | [] => ([], [])
  | '\n' :: s => (['\n'], s)
  | c :: s => let (line, rest) := splitLine s; (c :: line, rest)

/-- The offset of `field` as a key of one of the lines of a text that starts at `offset`. -/
def inLines? (field : List Char) : Nat → Nat → List Char → Option Nat
  | 0, _, _ => none
  | _, _, [] => none
  | fuel + 1, offset, s =>
    let (line, rest) := splitLine s
    let key := Text.trimStart line
    if startsWithKey field key then some (offset + (byteLength line - byteLength key))
    else inLines? field fuel (offset + byteLength line) rest

end KeyOffset

def sectionHeader (path : List String) : String := "[" ++ ".".intercalate path ++ "]"

/-- The offset of the key `field` in a text, below the header of the section at `path`. -/
def keyOffset? (content : String) (path : List String) (field : String) : Option Nat :=
  let s := content.toList
  let start :=
    if path.isEmpty then some (0, s)
    else KeyOffset.afterFirst? (sectionHeader path).toList 0 s
  start.bind fun (offset, rest) => KeyOffset.inLines? field.toList (rest.length + 1) offset rest

end Dashboard
