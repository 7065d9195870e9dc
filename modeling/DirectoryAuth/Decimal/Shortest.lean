import DirectoryAuth.Decimal.Binary64

/-!
# The fewest digits that read back

For each number of digits the two decimals next to a value are tried, lower and upper. The first
length at which one of them lies among the numbers that round to the value is taken, and of two
such decimals the nearer, or the even one where they are equally near. Seventeen digits always
suffice.
-/

namespace DirectoryAuth.Decimal

/-- A positive decimal number `coefficient * 10 ^ power`. -/
structure Digits where
  coefficient : Nat
  power : Int
  deriving DecidableEq, Repr

/-- A positive quotient of natural numbers. -/
structure Ratio where
  num : Nat
  den : Nat

namespace Ratio

def le (a b : Ratio) : Bool := a.num * b.den ≤ b.num * a.den

def lt (a b : Ratio) : Bool := a.num * b.den < b.num * a.den

/-- The distance between two quotients. -/
def distance (a b : Ratio) : Ratio :=
  let x := a.num * b.den
  let y := b.num * a.den
  ⟨max x y - min x y, a.den * b.den⟩

/-- An integer times a power of two. -/
def ofBinary (n : Nat) (exponent : Int) : Ratio :=
  if 0 ≤ exponent then ⟨n * Binary64.binary exponent.toNat, 1⟩
  else ⟨n, Binary64.binary (-exponent).toNat⟩

/-- An integer times a power of ten. -/
def ofDigits (d : Digits) : Ratio :=
  if 0 ≤ d.power then ⟨d.coefficient * Binary64.decimal d.power.toNat, 1⟩
  else ⟨d.coefficient, Binary64.decimal (-d.power).toNat⟩

/-- The whole number of times that `10 ^ power` goes into a quotient. -/
def floorAt (r : Ratio) (power : Int) : Nat :=
  if 0 ≤ power then r.num / (r.den * Binary64.decimal power.toNat)
  else r.num * Binary64.decimal (-power).toNat / r.den

end Ratio

/-- The numbers that round to a value: between two bounds, which belong to them or do not. -/
structure Neighbourhood where
  value : Ratio
  low : Ratio
  high : Ratio
  closed : Bool

namespace Neighbourhood

/-- The numbers that round to `significand * 2 ^ exponent`. The gap below a power of two is half
the gap above it, and a bound rounds to the even side. -/
def of (significand : Nat) (exponent : Int) : Neighbourhood :=
  let narrow := significand = Binary64.binary 52 ∧ Binary64.leastExponent < exponent
  { value := .ofBinary significand exponent
    low := .ofBinary (4 * significand - (if narrow then 1 else 2)) (exponent - 2)
    high := .ofBinary (4 * significand + 2) (exponent - 2)
    closed := significand % 2 = 0 }

def holds (n : Neighbourhood) (r : Ratio) : Bool :=
  if n.closed then n.low.le r && r.le n.high else n.low.lt r && r.lt n.high

/-- The decimal next to the value on the grid of `10 ^ power` that rounds to it, if there is one. -/
def nearest? (n : Neighbourhood) (power : Int) : Option Digits :=
  let lower : Digits := ⟨n.value.floorAt power, power⟩
  let upper : Digits := ⟨lower.coefficient + 1, power⟩
  match n.holds (.ofDigits lower), n.holds (.ofDigits upper) with
  | true, true =>
    let below := (Ratio.ofDigits lower).distance n.value
    let above := (Ratio.ofDigits upper).distance n.value
    if below.lt above then some lower
    else if above.lt below then some upper
    else some (if lower.coefficient % 2 = 0 then lower else upper)
  | true, false => some lower
  | false, true => some upper
  | false, false => none

end Neighbourhood

/-- How many decimal digits a number of double precision can need. -/
def mostDigits : Nat := 17

/-- The power of ten of the first digit of a quotient, looked for from `power` downwards. -/
def leadingPower (r : Ratio) : (fuel : Nat) → (power : Int) → Int
  | 0, power => power
  | fuel + 1, power => if 0 < r.floorAt power then power else leadingPower r fuel (power - 1)

/-- Trailing zeros moved into the power, at most `fuel` of them. -/
def Digits.stripped : (fuel : Nat) → Digits → Digits
  | 0, d => d
  | fuel + 1, d =>
    if d.coefficient ≠ 0 ∧ d.coefficient % 10 = 0 then
      stripped fuel ⟨d.coefficient / 10, d.power + 1⟩
    else d

/-- The shortest decimal that rounds to `significand * 2 ^ exponent`. -/
def shortest (significand : Nat) (exponent : Int) : Digits :=
  let n := Neighbourhood.of significand exponent
  let first := leadingPower n.value 700 330
  let found := (List.range mostDigits).findSome? fun i : Nat => n.nearest? (first - i)
  (found.getD ⟨n.value.floorAt (first - mostDigits), first - mostDigits⟩).stripped 20

end DirectoryAuth.Decimal
