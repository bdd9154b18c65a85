/-!
# Binary floating-point numbers of 64 bits

A number is its 64 bits: a sign, eleven bits of exponent and fifty-two bits of fraction. Decimal
numerals are read exactly, as a quotient of natural numbers, and rounded once to the nearest number
with ties to the even fraction.
-/

namespace Dashboard.Number

def tenTo (k : Nat) : Nat := Nat.pow 10 k

/-- A floating-point number, given by its bits. -/
structure Binary64 where
  bits : UInt64
  deriving DecidableEq, Repr, Inhabited

namespace Binary64

/-! ### The parts of a number -/

def isNegative (x : Binary64) : Bool := x.bits.toNat >>> 63 == 1

/-- The biased exponent. -/
def exponentField (x : Binary64) : Nat := (x.bits.toNat >>> 52) % 2048

def fraction (x : Binary64) : Nat := x.bits.toNat % (1 <<< 52)

def isFinite (x : Binary64) : Bool := x.exponentField != 2047

def isNaN (x : Binary64) : Bool := x.exponentField == 2047 && x.fraction != 0

def isInfinite (x : Binary64) : Bool := x.exponentField == 2047 && x.fraction == 0

def isZero (x : Binary64) : Bool := x.exponentField == 0 && x.fraction == 0

/-- The `m` of a finite number's magnitude `m * 2 ^ q`. -/
def mantissa (x : Binary64) : Nat :=
  if x.exponentField = 0 then x.fraction else (1 <<< 52) + x.fraction

/-- The `q` of a finite number's magnitude `m * 2 ^ q`. -/
def exponent (x : Binary64) : Int :=
  if x.exponentField = 0 then -1074 else (x.exponentField : Int) - 1075

/-- Equality of values: the two zeros are equal, and a NaN is equal to nothing. -/
def same (x y : Binary64) : Bool :=
  !x.isNaN && !y.isNaN && (x.bits == y.bits || x.isZero && y.isZero)

/-! ### Rounding -/

/-- The number of given sign whose other bits, read as one natural number, are `n`; infinity when
`n` is beyond the finite numbers. -/
def ofMagnitude (negative : Bool) (n : Nat) : Binary64 :=
  ⟨UInt64.ofNat ((if negative then 1 <<< 63 else 0) + min n (2047 <<< 52))⟩

def zero (negative : Bool) : Binary64 := ofMagnitude negative 0

def infinity (negative : Bool) : Binary64 := ofMagnitude negative (2047 <<< 52)

/-- A quiet value that is not a number. -/
def nan (negative : Bool) : Binary64 :=
  ⟨UInt64.ofNat ((if negative then 1 <<< 63 else 0) + (4095 <<< 51))⟩

/-- `num / den` rounded to the nearest natural number, a tie going to the even one. -/
def roundHalfEven (num den : Nat) : Nat :=
  let q := num / den
  let r := num % den
  if 2 * r > den || 2 * r == den && q % 2 == 1 then q + 1 else q

/-- `num / den / 2 ^ q` rounded to the nearest natural number. -/
def scaledQuotient (num den : Nat) (q : Int) : Nat :=
  if 0 ≤ q then roundHalfEven num (den <<< q.toNat)
  else roundHalfEven (num <<< (-q).toNat) den

/-- The number nearest to `num / den`. The exponent is first chosen so that the quotient has
fifty-three or fifty-four bits, and once more when it has fifty-four. The bits of a magnitude
`m * 2 ^ q` are `(q + 1074) * 2 ^ 52 + m`, for subnormal and normal numbers alike. -/
def ofRatio (negative : Bool) (num den : Nat) : Binary64 :=
  if num = 0 then zero negative
  else
    let q : Int := max (-1074) ((num.log2 : Int) - (den.log2 : Int) - 53)
    let m := scaledQuotient num den q
    if m < 1 <<< 53 then ofMagnitude negative (((q + 1074).toNat <<< 52) + m)
    else ofMagnitude negative (((q + 1075).toNat <<< 52) + scaledQuotient num den (q + 1))

/-- The number nearest to `digits * 10 ^ exponent`. -/
def ofDecimal (negative : Bool) (digits : Nat) (exponent : Int) : Binary64 :=
  let magnitude : Int := (Nat.toDigits 10 digits).length + exponent
  if digits = 0 || magnitude < -330 then zero negative
  else if 310 < magnitude then infinity negative
  else if 0 ≤ exponent then ofRatio negative (digits * tenTo exponent.toNat) 1
  else ofRatio negative digits (tenTo (-exponent).toNat)

end Binary64

end Dashboard.Number
