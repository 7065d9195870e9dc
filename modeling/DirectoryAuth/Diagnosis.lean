import DirectoryAuth.Text.Blank
import DirectoryAuth.Text.Digit

/-!
# Diagnosis of refused logins

Some directories say in the diagnostic message of a refused bind why they refused it: the word
`data`, blanks and a hexadecimal sub-code. The leftmost sub-code counts. Known sub-codes have
names.
-/

namespace DirectoryAuth.Diagnosis

open Text

/-- The word in front of a sub-code. -/
def marker : List Char := "data".toList

/-- The sub-code at the front of a text. -/
def codeAt? (cs : List Char) : Option Nat :=
  if marker.isPrefixOf cs then
    let rest := cs.drop marker.length
    let digits := (trimLeft rest).takeWhile isHexDigit
    if rest.head?.any isBlank && !digits.isEmpty then some (hexDigitsValue digits) else none
  else none

def firstCode? : List Char → Option Nat
  | [] => none
  | c :: cs => (codeAt? (c :: cs)).or (firstCode? cs)

/-- The sub-code of a diagnostic message. -/
def subcode? (message : String) : Option Nat := firstCode? message.toList

/-- The sub-codes that have names. -/
def names : List (Nat × String) := [
  (0x525, "ERROR_NO_SUCH_USER"),
  (0x52e, "ERROR_LOGON_FAILURE"),
  (0x530, "ERROR_INVALID_LOGON_HOURS"),
  (0x531, "ERROR_INVALID_WORKSTATION"),
  (0x532, "ERROR_PASSWORD_EXPIRED"),
  (0x533, "ERROR_ACCOUNT_DISABLED"),
  (0x534, "ERROR_LOGON_TYPE_NOT_GRANTED"),
  (0x701, "ERROR_ACCOUNT_EXPIRED"),
  (0x773, "ERROR_PASSWORD_MUST_CHANGE"),
  (0x775, "ERROR_ACCOUNT_LOCKED_OUT")]

/-- A number in hexadecimal; the sign stands behind the mark. -/
def hexOfInt : Int → String
  | .ofNat n => "0x" ++ hexOf n
  | .negSucc n => "0x-" ++ hexOf (n + 1)

/-- What a sub-code is called; without one there is nothing to say. -/
def describe : Option Int → String
  | none => ""
  | some code =>
    match names.find? fun (known, _) => (known : Int) == code with
    | some (_, name) => name
    | none => hexOfInt code

end DirectoryAuth.Diagnosis
