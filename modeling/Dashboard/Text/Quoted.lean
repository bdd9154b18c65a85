import Dashboard.Text.Printable

/-!
# Quoted text

Messages name an offending text between double quotes. The usual escapes stand for the control
characters that have one, `\u{…}` with the code in hexadecimal for every other character that cannot
be shown as it is, and a quotation mark or backslash is escaped.
-/

namespace Dashboard.Text

/-- The hexadecimal digits of `n`, in small letters and without leading zeros. -/
def hexDigits (n : Nat) : List Char := Nat.toDigits 16 n

/-- `c` as it stands between the given quotation marks. -/
def quotedChar (mark c : Char) : List Char :=
  if c = '\x00' then ['\\', '0']
  else if c = '\t' then ['\\', 't']
  else if c = '\r' then ['\\', 'r']
  else if c = '\n' then ['\\', 'n']
  else if c = '\\' || c = mark then ['\\', c]
  else if extendsGrapheme c || !isPrintable c then
    ['\\', 'u', '\x7b'] ++ hexDigits c.toNat ++ ['\x7d']
  else [c]

def quoted (s : String) : String :=
  String.ofList ('"' :: s.toList.flatMap (quotedChar '"') ++ ['"'])

def quotedSingle (c : Char) : String :=
  String.ofList ('\'' :: quotedChar '\'' c ++ ['\''])

end Dashboard.Text
