import Dashboard.Number.Shortest

/-!
# Numerals

The three ways in which floating-point numbers are written here: without exponent, without exponent
but always with a point, and in the notation of data formats, with an exponent for numbers that are
very large or very small.
-/

namespace Dashboard.Number

def digitsOf (n : Nat) : List Char := Nat.toDigits 10 n

def integerText (n : Int) : String :=
  match n with
  | .ofNat n => String.ofList (digitsOf n)
  | .negSucc n => String.ofList ('-' :: digitsOf (n + 1))

namespace Decimal

def positional (d : Decimal) : List Char :=
  let digits := digitsOf d.digits
  if 0 ≤ d.exponent then
    if d.digits = 0 then ['0'] else digits ++ List.replicate d.exponent.toNat '0'
  else
    let places := (-d.exponent).toNat
    if places < digits.length then
      digits.take (digits.length - places) ++ '.' :: digits.drop (digits.length - places)
    else '0' :: '.' :: List.replicate (places - digits.length) '0' ++ digits

/-- `d` written with a point, and with an exponent when it is `10 ^ 16` or more, or less than
`10 ^ (-5)`. -/
def scientific (d : Decimal) : List Char :=
  let digits := digitsOf d.digits
  let magnitude : Int := digits.length + d.exponent
  if d.digits = 0 then ['0', '.', '0']
  else if 0 ≤ d.exponent && magnitude ≤ 16 then d.positional ++ ['.', '0']
  else if -5 < magnitude && magnitude ≤ 16 then d.positional
  else
    let power := 'e' :: (integerText (magnitude - 1)).toList
    match digits with
    | [c] => c :: power
    | c :: rest => c :: '.' :: rest ++ power
    | [] => power

end Decimal

namespace Binary64

def signText (x : Binary64) : List Char := if x.isNegative then ['-'] else []

/-- `x` without an exponent: `1`, `0.1`, `-0`, `inf`, `NaN`. -/
def positionalText (x : Binary64) : String :=
  if x.isNaN then "NaN"
  else if x.isFinite then
    String.ofList (x.signText ++ (Decimal.shortest .upward x).positional)
  else String.ofList (x.signText ++ "inf".toList)

/-- `x` without an exponent and, when it is finite, always with a point: `1.0`. -/
def pointedText (x : Binary64) : String :=
  let text := x.positionalText
  if x.isFinite && !text.toList.contains '.' then text ++ ".0" else text

/-- A finite `x` in the notation of data formats: `1.0`, `1e16`, `1.5e-7`. -/
def scientificText (x : Binary64) : String :=
  String.ofList (x.signText ++ (Decimal.shortest .toEven x).scientific)

end Binary64

end Dashboard.Number
