/-!
# Binary floating point numbers of 64 bits

A finite number is a sign, a mantissa below `2 ^ 53` and an exponent of two.
The representation is unique: the mantissa is at least `2 ^ 52` unless the
exponent is the least one, `-1074`.  Zero keeps its sign.

Every number in the program comes from text or from integers, so the one
operation is rounding: `ofRatio` gives the number nearest to a quotient of
integers, and of two equally near ones that with the even mantissa.  All of it
is exact arithmetic on integers.
-/

namespace HostMonitor.Number

/-- A floating point number. -/
inductive Binary64 where
  /-- Plus or minus `mantissa * 2 ^ exponent`. -/
  | finite (negative : Bool) (mantissa : Nat) (exponent : Int)
  | infinite (negative : Bool)
  | nan
  deriving DecidableEq, Repr, Inhabited

/-- The quotient rounded to the nearest integer, a half to the even one. -/
def roundDiv (num den : Nat) : Nat :=
  let floor := num / den
  let twice := 2 * (num % den)
  if twice > den || (twice == den && floor % 2 == 1) then floor + 1 else floor

namespace Binary64

def minExponent : Int := -1074

def maxExponent : Int := 971

def zero (negative : Bool) : Binary64 := .finite negative 0 minExponent

/-- A quotient scaled by a power of two, as a pair of naturals. -/
def scaleDown (num den : Nat) (exponent : Int) : Nat × Nat :=
  if exponent < 0 then (num * Nat.pow 2 (-exponent).toNat, den)
  else (num, den * Nat.pow 2 exponent.toNat)

/-- The exponent at which the quotient has a mantissa of 53 bits, or the least
exponent if that is greater. -/
def exponentOf (num den : Nat) : Int :=
  let guess : Int := (num.log2 : Int) - den.log2 - 53
  let (n, d) := scaleDown num den guess
  let exact := if n / d < Nat.pow 2 53 then guess else guess + 1
  max exact minExponent

/-- The number nearest to plus or minus `num / den`, for a positive `den`. -/
def ofRatio (negative : Bool) (num den : Nat) : Binary64 :=
  if num = 0 then zero negative
  else
    let exponent := exponentOf num den
    let (n, d) := scaleDown num den exponent
    let mantissa := roundDiv n d
    let (mantissa, exponent) :=
      if mantissa < Nat.pow 2 53 then (mantissa, exponent) else (Nat.pow 2 52, exponent + 1)
    if exponent > maxExponent then .infinite negative
    else .finite negative mantissa exponent

/-- How many decimal digits a number has; none for zero. -/
def digitCount (n : Nat) : Nat := if n = 0 then 0 else (Nat.toDigits 10 n).length

/-- The number nearest to plus or minus `digits * 10 ^ exponent`.  What lies far
outside the range is settled without the power of ten. -/
def ofDecimal (negative : Bool) (digits : Nat) (exponent : Int) : Binary64 :=
  let top : Int := digitCount digits + exponent
  if digits = 0 || top < -330 then zero negative
  else if top > 310 then .infinite negative
  else if exponent < 0 then ofRatio negative digits (Nat.pow 10 (-exponent).toNat)
  else ofRatio negative (digits * Nat.pow 10 exponent.toNat) 1

def ofInt (n : Int) : Binary64 := ofRatio (decide (n < 0)) n.natAbs 1

/-- The absolute value as a quotient, for a finite number. -/
def ratio (mantissa : Nat) (exponent : Int) : Nat × Nat :=
  if exponent < 0 then (mantissa, Nat.pow 2 (-exponent).toNat)
  else (mantissa * Nat.pow 2 exponent.toNat, 1)

/-- The greatest integer that is not above a finite number. -/
def floor? : Binary64 → Option Int
  | .finite negative mantissa exponent =>
    let (n, d) := ratio mantissa exponent
    some (if negative then -((n + d - 1) / d : Nat) else (n / d : Nat))
  | _ => none

/-- The least integer that is not below a finite number. -/
def ceil? : Binary64 → Option Int
  | .finite negative mantissa exponent =>
    let (n, d) := ratio mantissa exponent
    some (if negative then -(n / d : Nat) else ((n + d - 1) / d : Nat))
  | _ => none

/-- The integer part of a finite number, toward zero. -/
def truncate? : Binary64 → Option Int
  | .finite negative mantissa exponent =>
    let (n, d) := ratio mantissa exponent
    some (if negative then -(n / d : Nat) else (n / d : Nat))
  | _ => none

def isIntegral : Binary64 → Bool
  | .finite _ mantissa exponent =>
    let (n, d) := ratio mantissa exponent
    n % d == 0
  | _ => false

def isPositive : Binary64 → Bool
  | .finite negative mantissa _ => !negative && mantissa != 0
  | .infinite negative => !negative
  | .nan => false

def isFinite : Binary64 → Bool
  | .finite .. => true
  | _ => false

end Binary64

end HostMonitor.Number
