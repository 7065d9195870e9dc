import DirectoryAuth.Failure
import DirectoryAuth.Template
import DirectoryAuth.Text.Digit

/-!
# Search filters

A filter is made from a template with numbered markers and one value for each number. Values are
escaped, so that a directory compares them literally: an asterisk, a parenthesis, a backslash or a
NUL in a value is written as a backslash and two hexadecimal digits.
-/

namespace DirectoryAuth.Filter

open Template Text

/-- One character of a value, escaped where a filter would give it a meaning. -/
def escapedChar (c : Char) : List Char :=
  if c = '\\' then ['\\', '5', 'c']
  else if c = '*' then ['\\', '2', 'a']
  else if c = '(' then ['\\', '2', '8']
  else if c = ')' then ['\\', '2', '9']
  else if c = '\x00' then ['\\', '0', '0']
  else [c]

def escape (cs : List Char) : List Char := cs.flatMap escapedChar

/-- What a marker refers to: the number of a value, which is written with `width` digits. -/
structure Slot where
  number : Nat
  width : Nat
  deriving DecidableEq, Repr

/-- Reads the number of a marker: digits of any script and a closing brace. -/
def readSlot : Reader Slot := fun cs =>
  let digits := cs.takeWhile isDigit
  match cs.dropWhile isDigit with
  | '}' :: _ =>
    if digits.isEmpty then none
    else some (⟨digitsValue (digits.filterMap digitValue?), digits.length⟩, digits.length + 1)
  | _ => none

/-- The pieces of a filter template. -/
def parts (template : String) : List (Piece Slot) := pieces readSlot template.toList

/-- Why a marker cannot be replaced by one of the values, if so. -/
def failure? (template : String) (values : List String) (slot : Slot) : Option Failure :=
  if Decimal.digitLimit < slot.width then some (.longMarker slot.width)
  else if values.length ≤ slot.number then some (.search (.noParameter slot.number template))
  else none

/-- The filter of a template, unless some marker cannot be replaced; the first such marker counts. -/
def format (template : String) (values : List String) : Except Failure String :=
  let parts := parts template
  match (markers parts).findSome? (failure? template values) with
  | some failure => .error failure
  | none =>
    .ok (String.ofList (expand (fun slot => escape ((values[slot.number]?).getD "").toList) parts))

end DirectoryAuth.Filter
