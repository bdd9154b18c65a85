import Dashboard.Number.Binary64

/-!
# The shortest decimal that reads back

Every finite number is the nearest one to all the reals of an interval around it. The decimals with
`n` digits form a grid, and if any point of the grid lies in the interval, so does one of the two
neighbours of the number on the grid. The first `n` with a hit gives the fewest digits; of two hits
the nearer one is taken.
-/

namespace Dashboard.Number

/-- A decimal `digits * 10 ^ exponent`. -/
structure Decimal where
  digits : Nat
  exponent : Int
  deriving DecidableEq, Repr, Inhabited

/-- Where a number exactly between two decimals goes. -/
inductive TieRule where
  | toEven
  | upward
  deriving DecidableEq, Repr

/-- A positive number and the interval of reals that round to it, over a common denominator. -/
structure RoundingInterval where
  low : Nat
  value : Nat
  high : Nat
  denominator : Nat
  includesEnds : Bool

namespace RoundingInterval

/-- The interval of a finite number that is not zero. Below a power of two the numbers lie twice as
close. -/
def ofBinary64 (x : Binary64) : RoundingInterval :=
  let m := x.mantissa
  let q := x.exponent - 2
  let scale := if 0 ≤ q then 1 <<< q.toNat else 1
  let gap := if m = 1 <<< 52 && x.exponent != -1074 then 1 else 2
  { low := (4 * m - gap) * scale
    value := 4 * m * scale
    high := (4 * m + 2) * scale
    denominator := if 0 ≤ q then 1 else 1 <<< (-q).toNat
    includesEnds := m % 2 == 0 }

def contains (i : RoundingInterval) (num den : Nat) : Bool :=
  let a := num * i.denominator
  if i.includesEnds then i.low * den ≤ a && a ≤ i.high * den
  else i.low * den < a && a < i.high * den

/-- The power of ten just above the value, in the sense `10 ^ (k - 1) ≤ value < 10 ^ k`; found by
correcting an estimate from the number of binary digits. -/
def decimalMagnitude (i : RoundingInterval) : Int :=
  let atLeast (k : Int) : Bool :=
    if 0 ≤ k then i.denominator * tenTo k.toNat ≤ i.value
    else i.denominator ≤ i.value * tenTo (-k).toNat
  let estimate : Int := ((i.value.log2 : Int) - (i.denominator.log2 : Int) - 2) * 30103 / 100000
  if atLeast (estimate + 1) then
    if atLeast (estimate + 2) then estimate + 3 else estimate + 2
  else if atLeast estimate then estimate + 1 else estimate

/-- The decimal with last place `10 ^ e` nearest to the value, if one lies in the interval. -/
def onGrid? (i : RoundingInterval) (tie : TieRule) (e : Int) : Option Decimal :=
  let num := if 0 ≤ e then tenTo e.toNat else 1
  let den := if 0 ≤ e then 1 else tenTo (-e).toNat
  -- the value in units of the last place is `a / b`
  let a := i.value * den
  let b := i.denominator * num
  let d := a / b
  let below := i.contains (d * num) den
  let above := i.contains ((d + 1) * num) den
  let r := 2 * (a % b)
  let up := r > b || r == b && (tie == .upward || d % 2 == 1)
  if below && (!above || !up) then some ⟨d, e⟩
  else if above then some ⟨d + 1, e⟩
  else none

end RoundingInterval

namespace Decimal

/-- `d` without the zeros at its end, for a value of at most `fuel` digits. -/
def stripZeros : Nat → Decimal → Decimal
  | 0, d => d
  | fuel + 1, d =>
    if d.digits != 0 && d.digits % 10 == 0 then stripZeros fuel ⟨d.digits / 10, d.exponent + 1⟩
    else d

/-- The decimal with the fewest digits that reads back as the finite number `x`, and of those the
nearest. Seventeen digits always suffice. -/
def shortest (tie : TieRule) (x : Binary64) : Decimal :=
  if x.isZero then ⟨0, 0⟩
  else
    let i := RoundingInterval.ofBinary64 x
    let k := i.decimalMagnitude
    let found := (List.range 17).findSome? fun n => i.onGrid? tie (k - (n + 1 : Nat))
    stripZeros 20 (found.getD ⟨0, 0⟩)

end Decimal

end Dashboard.Number
