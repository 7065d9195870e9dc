/-!
# Binary numbers of 53 bits

The numbers of double precision, kept as an integer times a power of two. A quotient of integers
is rounded to the nearest of them, a tie going to the even neighbour.
-/

namespace DirectoryAuth.Decimal

/-- A number of double precision. A finite one is `significand * 2 ^ exponent`; its significand is
below `2 ^ 53`, and not below `2 ^ 52` unless the exponent is the least one. -/
inductive Binary64 where
  | nan
  | infinite (negative : Bool)
  | finite (negative : Bool) (significand : Nat) (exponent : Int)
  deriving DecidableEq, Repr

namespace Binary64

/-- The least exponent, that of the numbers nearest to zero. -/
def leastExponent : Int := -1074

/-- The exponent of the largest numbers. -/
def greatestExponent : Int := 971

/-- A power of two. -/
def binary (n : Nat) : Nat := Nat.pow 2 n

/-- A power of ten. -/
def decimal (n : Nat) : Nat := Nat.pow 10 n

/-- The quotient rounded to the nearest integer, a tie to the even one. -/
def roundDiv (num den : Nat) : Nat :=
  let q := num / den
  let r := num % den
  if 2 * r < den then q
  else if den < 2 * r then q + 1
  else if q % 2 = 0 then q else q + 1

/-- The quotient `num / den` divided by a power of two, as a quotient again. -/
def scaled (num den : Nat) (exponent : Int) : Nat × Nat :=
  if 0 ≤ exponent then (num, den * binary exponent.toNat) else (num * binary (-exponent).toNat, den)

/-- The exponent under which a positive quotient has 53 binary digits before the point, or the
least exponent. -/
def exponentFor (num den : Nat) : Int :=
  let estimate := max ((num.log2 : Int) - den.log2 - 53) leastExponent
  let (n, d) := scaled num den estimate
  if n / d < binary 53 then estimate else estimate + 1

/-- The number nearest to a quotient. -/
def ofRatio (negative : Bool) (num den : Nat) : Binary64 :=
  if num = 0 then .finite negative 0 leastExponent
  else
    let exponent := exponentFor num den
    let (n, d) := scaled num den exponent
    let m := roundDiv n d
    let (significand, exponent) := if m = binary 53 then (binary 52, exponent + 1) else (m, exponent)
    if greatestExponent < exponent then .infinite negative
    else .finite negative significand exponent

/-- Above this many digits before the point every number is infinite. -/
def wholeDigitLimit : Int := 310

/-- Below this many digits behind the point every number is zero. -/
def fractionDigitLimit : Int := -330

/-- The number nearest to `coefficient * 10 ^ power`. -/
def ofDecimal (negative : Bool) (coefficient : Nat) (power : Int) : Binary64 :=
  let magnitude := ((Nat.toDigits 10 coefficient).length : Int) + power
  if coefficient = 0 then .finite negative 0 leastExponent
  else if wholeDigitLimit < magnitude then .infinite negative
  else if magnitude < fractionDigitLimit then .finite negative 0 leastExponent
  else if 0 ≤ power then ofRatio negative (coefficient * decimal power.toNat) 1
  else ofRatio negative coefficient (decimal (-power).toNat)

end Binary64

end DirectoryAuth.Decimal
