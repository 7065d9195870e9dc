import DirectoryAuth.Decimal.Integer
import DirectoryAuth.Decimal.Shortest

/-!
# Reading and writing numbers

A number is read from a sign, digits with an optional point, and an optional exponent, or from one
of the words for infinity and not-a-number. It is written with the fewest digits that read back.
-/

namespace DirectoryAuth.Decimal

open Text

/-- The letters of the basic alphabet in lower case, all else as it is. -/
def plainLower (cs : List Char) : List Char := cs.map Char.toLower

/-- Splits off the longest front of decimal digits. -/
def spanDigits (cs : List Char) : List Char × List Char :=
  (cs.takeWhile (fun c => (digitValue? c).isSome), cs.dropWhile (fun c => (digitValue? c).isSome))

/-- The exponent that ends a number: nothing, or a mark, a sign and digits. -/
def readExponent? : List Char → Option Int
  | [] => some 0
  | 'e' :: cs => do
    let (negative, cs) := splitSign cs
    let digits ← digits? cs
    if digits.isEmpty then none
    else
      let n := digitsValue digits
      some (if negative then -(n : Int) else n)
  | _ => none

/-- A number without its sign, in lower case. -/
def readUnsigned? (negative : Bool) (cs : List Char) : Option Binary64 :=
  if cs = "inf".toList ∨ cs = "infinity".toList then some (.infinite negative)
  else if cs = "nan".toList then some .nan
  else do
    let (whole, rest) := spanDigits cs
    let (fraction, rest) := match rest with
      | '.' :: rest => spanDigits rest
      | rest => ([], rest)
    if whole.isEmpty && fraction.isEmpty then none
    else
      let exponent ← readExponent? rest
      let digits ← digits? (whole ++ fraction)
      some (.ofDecimal negative (digitsValue digits) (exponent - fraction.length))

def readNumber? (s : String) : Option Binary64 := do
  let (negative, cs) := splitSign (plainLower (← normalized? s))
  readUnsigned? negative cs

/-- How a number is laid out once its digits are known. -/
structure Layout where
  /-- First-digit powers from this one up to the next bound are written without an exponent. -/
  leastPositional : Int
  /-- From this first-digit power on the exponent is written. -/
  leastScientific : Int
  /-- The least number of digits in an exponent. -/
  exponentDigits : Nat

/-- Numbers are positional from 0.0001 up to, but not including, 10 to the power of 16. -/
def Layout.plain : Layout := ⟨-4, 16, 2⟩

/-- An exponent with its sign. -/
def writeExponent (layout : Layout) (power : Int) : List Char :=
  let digits := Nat.toDigits 10 power.natAbs
  'e' :: (if power < 0 then '-' else '+') ::
    (List.replicate (layout.exponentDigits - digits.length) '0' ++ digits)

/-- Digits with the point behind `whole` of them; a whole number gets a zero behind the point. -/
def writePositional (digits : List Char) (whole : Int) : List Char :=
  if whole ≤ 0 then '0' :: '.' :: (List.replicate (-whole).toNat '0' ++ digits)
  else
    let padded := digits ++ List.replicate (whole.toNat - digits.length) '0'
    let fraction := padded.drop whole.toNat
    padded.take whole.toNat ++ '.' :: (if fraction.isEmpty then ['0'] else fraction)

/-- The digits of a positive number, laid out. -/
def writeDigits (layout : Layout) (d : Digits) : List Char :=
  let digits := Nat.toDigits 10 d.coefficient
  let power := d.power + digits.length - 1
  if layout.leastPositional ≤ power ∧ power < layout.leastScientific then
    writePositional digits (power + 1)
  else
    let fraction := digits.drop 1
    digits.take 1 ++ (if fraction.isEmpty then [] else '.' :: fraction) ++
      writeExponent layout power

def Binary64.write (layout : Layout) : Binary64 → String
  | .nan => "nan"
  | .infinite negative => if negative then "-inf" else "inf"
  | .finite negative significand exponent =>
    (if negative then "-" else "") ++
      if significand = 0 then "0.0"
      else String.ofList (writeDigits layout (shortest significand exponent))

/-- A number as settings and messages show it. -/
def Binary64.text (x : Binary64) : String := x.write .plain

/-- The number with the value of a natural number. -/
def Binary64.ofNat (n : Nat) : Binary64 := .ofDecimal false n 0

end DirectoryAuth.Decimal
