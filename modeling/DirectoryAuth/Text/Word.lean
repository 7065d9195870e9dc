import DirectoryAuth.Text.Ranges
import DirectoryAuth.Text.WordTable

/-!
# Word characters

The characters that a name may go on with: letters, numerals and the underscore, of every script.
-/

namespace DirectoryAuth.Text

def isWordChar (c : Char) : Bool := inRanges wordRanges c

/-- A letter of the basic alphabet. -/
def isBasicLetter (c : Char) : Bool := ('a' ≤ c && c ≤ 'z') || ('A' ≤ c && c ≤ 'Z')

/-- A digit of the basic alphabet. -/
def isBasicDigit (c : Char) : Bool := '0' ≤ c && c ≤ '9'

end DirectoryAuth.Text
