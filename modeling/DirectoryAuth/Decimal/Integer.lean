import DirectoryAuth.Text.Blank
import DirectoryAuth.Text.Digit

/-!
# Reading integers

An integer is an optional sign and decimal digits of any script. One underscore may stand between
two digits. A text of more than `digitLimit` digits is refused.
-/

namespace DirectoryAuth.Decimal

open Text

/-- The most digits an integer may be read from. -/
def digitLimit : Nat := 4300

/-- Digits of every script written with the digits of the basic alphabet. -/
def plainDigits (cs : List Char) : List Char :=
  cs.map fun c => match digitValue? c with
    | some d => Nat.digitChar d
    | none => c

/-- Takes out the underscores between two digits; `none` when an underscore stands elsewhere.
`afterDigit` says whether a digit stands in front. -/
def joinDigits (afterDigit : Bool) : List Char → Option (List Char)
  | [] => some []
  | c :: cs =>
    if c = '_' then
      if afterDigit && (cs.head?.any isBasicDigit) then joinDigits false cs else none
    else (joinDigits (isBasicDigit c) cs).map (c :: ·)
where
  isBasicDigit (c : Char) : Bool := '0' ≤ c && c ≤ '9'

/-- The sign in front of a number, and the rest. -/
def splitSign : List Char → Bool × List Char
  | '-' :: cs => (true, cs)
  | '+' :: cs => (false, cs)
  | cs => (false, cs)

/-- The values of a list of digits, `none` when some character is not one. -/
def digits? (cs : List Char) : Option (List Nat) := cs.mapM digitValue?

/-- The trimmed text in plain digits, without its inner underscores. -/
def normalized? (s : String) : Option (List Char) :=
  joinDigits false (plainDigits (trimChars s.toList))

def readInteger? (s : String) : Option Int := do
  let (negative, cs) := splitSign (← normalized? s)
  let digits ← digits? cs
  if digits.isEmpty || digits.length > digitLimit then none
  else
    let n := digitsValue digits
    some (if negative then -(n : Int) else n)

end DirectoryAuth.Decimal
