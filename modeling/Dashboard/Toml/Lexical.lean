import Dashboard.Toml.Value

/-!
# Scalars and keys of a TOML document

Readers for the parts of a line: blanks, comments, strings, numbers, dates and keys. A reader takes
what it reads off the front of the text, or fails. Only a line feed, alone or after a carriage
return, ends a line; other controls than the tab are refused everywhere.
-/

namespace Dashboard.Toml

open Number

/-- Takes something off the front of a text. -/
abbrev Reader (α : Type) := List Char → Option (α × List Char)

/-! ### Blanks and line ends -/

def isSpace (c : Char) : Bool := c == ' ' || c == '\t'

def skipSpace (s : List Char) : List Char := s.dropWhile isSpace

/-- Whether a character may stand in a comment: anything but controls other than the tab. -/
def isVisible (c : Char) : Bool := c == '\t' || (0x20 ≤ c.toNat && c.toNat != 0x7F)

/-- The text after a line feed, alone or after a carriage return. -/
def newline? : List Char → Option (List Char)
  | '\n' :: s => some s
  | '\r' :: '\n' :: s => some s
  | _ => none

/-- The text after a comment, if one starts here. -/
def skipComment : List Char → List Char
  | '#' :: s => s.dropWhile isVisible
  | s => s

/-- The text after the end of a line, which may hold spaces and a comment. The end of the document
ends a line. -/
def endOfLine? (s : List Char) : Option (List Char) :=
  match skipComment (skipSpace s) with
  | [] => some []
  | rest => newline? rest

/-- The text after spaces, line ends and comments; `inComment` says whether a comment is open. -/
def skipFiller : Bool → List Char → List Char
  | _, [] => []
  | _, '\n' :: s => skipFiller false s
  | _, '\r' :: '\n' :: s => skipFiller false s
  | true, c :: s => if isVisible c then skipFiller true s else c :: s
  | false, '#' :: s => skipFiller true s
  | false, c :: s => if isSpace c then skipFiller false s else c :: s

def after? (c : Char) : List Char → Option (List Char)
  | d :: s => if d = c then some s else none
  | [] => none

/-! ### Strings -/

def hexDigit? (c : Char) : Option Nat :=
  if c.isDigit then some (c.toNat - '0'.toNat)
  else if 'a' ≤ c ∧ c ≤ 'f' then some (c.toNat - 'a'.toNat + 10)
  else if 'A' ≤ c ∧ c ≤ 'F' then some (c.toNat - 'A'.toNat + 10)
  else none

/-- The character with the given hexadecimal code, if there is one. -/
def charOfHex? (digits : List Char) : Option Char := do
  let values ← digits.mapM hexDigit?
  let n := values.foldl (fun n d => n * 16 + d) 0
  if n.isValidChar then some (Char.ofNat n) else none

def unicodeEscape (width : Nat) : Reader Char := fun s =>
  if s.length < width then none
  else (charOfHex? (s.take width)).map fun c => (c, s.drop width)

def escape : Reader Char
  | 'b' :: s => some ('\x08', s)
  | 'f' :: s => some ('\x0c', s)
  | 'n' :: s => some ('\n', s)
  | 'r' :: s => some ('\r', s)
  | 't' :: s => some ('\t', s)
  | '"' :: s => some ('"', s)
  | '\\' :: s => some ('\\', s)
  | 'u' :: s => unicodeEscape 4 s
  | 'U' :: s => unicodeEscape 8 s
  | _ => none

/-- The rest of a string in double quotes on one line, after `done`, which is reversed. -/
def basicTail : Nat → List Char → Reader String
  | 0, _, _ => none
  | fuel + 1, done, s =>
    match s with
    | '"' :: s => some (String.ofList done.reverse, s)
    | '\\' :: s =>
      match escape s with
      | some (c, s) => basicTail fuel (c :: done) s
      | none => none
    | c :: s => if isVisible c then basicTail fuel (c :: done) s else none
    | [] => none

/-- The rest of a string in single quotes on one line. -/
def literalTail (done : List Char) : Reader String
  | '\'' :: s => some (String.ofList done.reverse, s)
  | c :: s => if isVisible c then literalTail (c :: done) s else none
  | [] => none

/-- The closing quotes of a string over several lines: up to two quotes in front of the last three
belong to the string. -/
def closing (quote : Char) (done : List Char) (s : List Char) : String × List Char :=
  match s with
  | a :: b :: rest =>
    if a = quote then
      if b = quote then (String.ofList (quote :: quote :: done).reverse, rest)
      else (String.ofList (quote :: done).reverse, b :: rest)
    else (String.ofList done.reverse, s)
  | [a] =>
    if a = quote then (String.ofList (quote :: done).reverse, [])
    else (String.ofList done.reverse, s)
  | [] => (String.ofList done.reverse, [])

/-- The text after the blanks and line ends that a backslash at the end of a line skips. -/
def skipLines : List Char → List Char
  | '\n' :: s => skipLines s
  | '\r' :: '\n' :: s => skipLines s
  | c :: s => if isSpace c then skipLines s else c :: s
  | [] => []

/-- The rest of a string in double quotes over several lines. -/
def multilineBasicTail : Nat → List Char → Reader String
  | 0, _, _ => none
  | fuel + 1, done, s =>
    match s with
    | '"' :: '"' :: '"' :: s => some (closing '"' done s)
    | '\\' :: s =>
      match newline? (skipSpace s) with
      | some s => multilineBasicTail fuel done (skipLines s)
      | none =>
        match escape s with
        | some (c, s) => multilineBasicTail fuel (c :: done) s
        | none => none
    | c :: rest =>
      match newline? s with
      | some s => multilineBasicTail fuel ('\n' :: done) s
      | none => if isVisible c then multilineBasicTail fuel (c :: done) rest else none
    | [] => none

/-- The rest of a string in single quotes over several lines. -/
def multilineLiteralTail : Nat → List Char → Reader String
  | 0, _, _ => none
  | fuel + 1, done, s =>
    match s with
    | '\'' :: '\'' :: '\'' :: s => some (closing '\'' done s)
    | c :: rest =>
      match newline? s with
      | some s => multilineLiteralTail fuel ('\n' :: done) s
      | none => if isVisible c then multilineLiteralTail fuel (c :: done) rest else none
    | [] => none

/-- The text after a line end right behind the opening quotes. -/
def skipFirstNewline (s : List Char) : List Char := (newline? s).getD s

def stringValue : Reader String
  | '"' :: '"' :: '"' :: s => multilineBasicTail (s.length + 1) [] (skipFirstNewline s)
  | '"' :: s => basicTail (s.length + 1) [] s
  | '\'' :: '\'' :: '\'' :: s => multilineLiteralTail (s.length + 1) [] (skipFirstNewline s)
  | '\'' :: s => literalTail [] s
  | _ => none

/-! ### Numbers -/

/-- Takes digits, between which single underscores may stand. -/
def digitRun (isDigit : Char → Bool) : List Char → List Char × List Char
  | '_' :: c :: s =>
    if isDigit c then
      let (digits, rest) := digitRun isDigit s
      (c :: digits, rest)
    else ([], '_' :: c :: s)
  | c :: s =>
    if isDigit c then
      let (digits, rest) := digitRun isDigit s
      (c :: digits, rest)
    else ([], c :: s)
  | [] => ([], [])

/-- Takes digits of which there must be at least one. -/
def digits (isDigit : Char → Bool) : Reader (List Char)
  | c :: s => if isDigit c then some (digitRun isDigit (c :: s)) else none
  | [] => none

/-- Takes a sign: whether it is a minus. -/
def sign : List Char → Bool × List Char
  | '-' :: s => (true, s)
  | '+' :: s => (false, s)
  | s => (false, s)

/-- Takes the digits of a decimal integer, which has no zeros in front. -/
def decimalDigits : Reader (List Char)
  | '0' :: s => some (['0'], s)
  | s => digits Char.isDigit s

def digitsValue (base : Nat) (digits : List Char) : Nat :=
  digits.foldl (fun n c => n * base + (hexDigit? c).getD 0) 0

/-- An integer of 64 bits. -/
def inRange (n : Int) : Option Int :=
  if Int64.minValue.toInt ≤ n ∧ n ≤ Int64.maxValue.toInt then some n else none

/-- Takes an integer written in the given base after its mark. -/
def basedInteger (base : Nat) (isDigit : Char → Bool) : Reader Int := fun s => do
  let (ds, rest) ← digits isDigit s
  let n ← inRange (digitsValue base ds)
  some (n, rest)

/-- Takes an integer: decimal with an optional sign, or hexadecimal, octal or binary. -/
def integer : Reader Int
  | '0' :: 'x' :: s => basedInteger 16 (fun c => (hexDigit? c).isSome) s
  | '0' :: 'o' :: s => basedInteger 8 (fun c => '0' ≤ c && c ≤ '7') s
  | '0' :: 'b' :: s => basedInteger 2 (fun c => c == '0' || c == '1') s
  | s => do
    let (negative, s) := sign s
    let (ds, rest) ← decimalDigits s
    let n : Int := digitsValue 10 ds
    let n ← inRange (if negative then -n else n)
    some (n, rest)

def fractionDigits : Reader (List Char)
  | '.' :: s => digits Char.isDigit s
  | _ => none

def exponentPart : Reader Int
  | c :: s =>
    if c == 'e' || c == 'E' then do
      let (negative, s) := sign s
      let (ds, rest) ← digits Char.isDigit s
      let n : Int := digitsValue 10 ds
      some (if negative then -n else n, rest)
    else none
  | [] => none

/-- Takes a number with a fraction, an exponent or both. One too large to be finite is refused
unless it is negative. -/
def numericFloat : Reader Binary64 := fun s => do
  let (negative, s) := sign s
  let (whole, s) ← decimalDigits s
  let (fraction, s, pointed) := match fractionDigits s with
    | some (ds, rest) => (ds, rest, true)
    | none => ([], s, false)
  let (exponent, s, scaled) := match exponentPart s with
    | some (n, rest) => (n, rest, true)
    | none => (0, s, false)
  if !pointed && !scaled then none
  else
    let x := Binary64.ofDecimal negative (digitsValue 10 (whole ++ fraction))
      (exponent - fraction.length)
    if x.isInfinite && !negative then none else some (x, s)

/-- Takes an infinity or the value that is not a number. -/
def specialFloat : Reader Binary64 := fun s =>
  match sign s with
  | (negative, 'i' :: 'n' :: 'f' :: rest) => some (.infinity negative, rest)
  | (negative, 'n' :: 'a' :: 'n' :: rest) => some (.nan negative, rest)
  | _ => none

/-! ### Dates and times -/

def fixedDigits (n : Nat) : Reader Nat := fun s =>
  if s.length < n || !(s.take n).all Char.isDigit then none
  else some (digitsValue 10 (s.take n), s.drop n)

def date : Reader Date := fun s => do
  let (year, s) ← fixedDigits 4 s
  let (month, s) ← fixedDigits 2 (← after? '-' s)
  let (day, s) ← fixedDigits 2 (← after? '-' s)
  let d : Date := ⟨year, month, day⟩
  if d.isValid then some (d, s) else none

/-- Takes the fraction of a second, of which nine digits count. -/
def secondFraction : List Char → Nat × List Char
  | '.' :: s =>
    let ds := s.takeWhile Char.isDigit
    if ds.isEmpty then (0, '.' :: s)
    else (digitsValue 10 ((ds ++ List.replicate 9 '0').take 9), s.drop ds.length)
  | s => (0, s)

def time : Reader Time := fun s => do
  let (hour, s) ← fixedDigits 2 s
  let (minute, s) ← fixedDigits 2 (← after? ':' s)
  let (second, s) ← fixedDigits 2 (← after? ':' s)
  let (nanosecond, s) := secondFraction s
  let t : Time := ⟨hour, minute, second, nanosecond⟩
  if t.isValid then some (t, s) else none

def offset : Reader Offset
  | 'Z' :: s => some (.utc, s)
  | 'z' :: s => some (.utc, s)
  | c :: s =>
    if c == '+' || c == '-' then do
      let (hours, s) ← fixedDigits 2 s
      let (minutes, s) ← fixedDigits 2 (← after? ':' s)
      let n : Int := hours * 60 + minutes
      if hours ≤ 23 && minutes ≤ 59 then some (.minutes (if c == '-' then -n else n), s) else none
    else none
  | [] => none

def timeMark? : List Char → Option (List Char)
  | c :: s => if c == 'T' || c == 't' || c == ' ' then some s else none
  | [] => none

/-- Takes a date, a time, or a date with a time and maybe an offset. -/
def datetime : Reader Datetime := fun s =>
  match date s with
  | some (d, rest) =>
    match (timeMark? rest).bind time with
    | some (t, rest) =>
      match offset rest with
      | some (o, rest) => some (⟨d, t, o⟩, rest)
      | none => some (⟨d, t, none⟩, rest)
    | none => some (⟨d, none, none⟩, rest)
  | none =>
    match time s with
    | some (t, rest) => some (⟨none, t, none⟩, rest)
    | none => none

/-! ### Scalars and keys -/

def word? (word : String) (s : List Char) : Option (List Char) :=
  if s.take word.length = word.toList then some (s.drop word.length) else none

/-- Takes a value that is neither an array nor a table. -/
def scalar : Reader Value := fun s =>
  match s with
  | [] => none
  | c :: _ =>
    if c == '"' || c == '\'' then (stringValue s).map fun (t, r) => (.string t, r)
    else
      match word? "true" s with
      | some r => some (.boolean true, r)
      | none =>
        match word? "false" s with
        | some r => some (.boolean false, r)
        | none =>
          match datetime s with
          | some (d, r) => some (.datetime d, r)
          | none =>
            match numericFloat s <|> specialFloat s with
            | some (x, r) => some (.float x, r)
            | none => (integer s).map fun (n, r) => (.integer n, r)

/-- Whether a character may stand in a key without quotes. -/
def isBareChar (c : Char) : Bool := c.isAlphanum || c == '-' || c == '_'

/-- Takes one part of a key: a bare word or a string on one line. -/
def simpleKey : Reader String := fun s =>
  match s with
  | '"' :: s => basicTail (s.length + 1) [] s
  | '\'' :: s => literalTail [] s
  | s =>
    let word := s.takeWhile isBareChar
    if word.isEmpty then none else some (String.ofList word, s.drop word.length)

/-- Takes at most `n` parts of a key, separated by points. -/
def keyParts : Nat → Reader (List String)
  | 0, _ => none
  | n + 1, s =>
    match simpleKey (skipSpace s) with
    | none => none
    | some (k, rest) =>
      match skipSpace rest with
      | '.' :: rest =>
        match keyParts n rest with
        | some (ks, rest) => some (k :: ks, rest)
        | none => none
      | rest => some ([k], rest)

/-- Takes a key, and the spaces after it. A key has fewer than eighty parts. -/
def dottedKey : Reader (List String) := keyParts 79

end Dashboard.Toml
