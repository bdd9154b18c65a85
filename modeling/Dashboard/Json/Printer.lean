import Dashboard.Json.Basic
import Dashboard.Number.Numeral

/-!
# Printing JSON

The layout for reading: two spaces for each level, one entry or item to a line, and an empty
container closed on the spot.
-/

namespace Dashboard.Json

open Number

/-- A character inside a string: quotation marks, backslashes and controls are escaped. -/
def escapedChar (c : Char) : List Char :=
  if c = '"' then ['\\', '"']
  else if c = '\\' then ['\\', '\\']
  else if c = '\n' then ['\\', 'n']
  else if c = '\r' then ['\\', 'r']
  else if c = '\t' then ['\\', 't']
  else if c = '\x08' then ['\\', 'b']
  else if c = '\x0c' then ['\\', 'f']
  else if c.toNat < 0x20 then
    ['\\', 'u', '0', '0', Nat.digitChar (c.toNat / 16), Nat.digitChar (c.toNat % 16)]
  else [c]

def quotedString (s : String) : String :=
  String.ofList ('"' :: s.toList.flatMap escapedChar ++ ['"'])

/-- The start of a line `depth` levels deep. -/
def margin (depth : Nat) : String := "\n" ++ "".pushn ' ' (2 * depth)

mutual

/-- `v` as it stands `depth` levels deep. -/
def prettyAt (depth : Nat) : Json → String
  | null => "null"
  | boolean b => if b then "true" else "false"
  | integer n => integerText n
  | float x => x.scientificText
  | string s => quotedString s
  | array [] => "[]"
  | array items => "[" ++ prettyItems (depth + 1) items ++ margin depth ++ "]"
  | object [] => "\x7b\x7d"
  | object entries => "\x7b" ++ prettyEntries (depth + 1) entries ++ margin depth ++ "\x7d"

def prettyItems (depth : Nat) : List Json → String
  | [] => ""
  | [v] => margin depth ++ prettyAt depth v
  | v :: rest => margin depth ++ prettyAt depth v ++ "," ++ prettyItems depth rest

def prettyEntries (depth : Nat) : List (String × Json) → String
  | [] => ""
  | [(k, v)] => margin depth ++ quotedString k ++ ": " ++ prettyAt depth v
  | (k, v) :: rest =>
    margin depth ++ quotedString k ++ ": " ++ prettyAt depth v ++ "," ++ prettyEntries depth rest

end

def pretty (v : Json) : String := prettyAt 0 v

end Dashboard.Json
