import DirectoryAuth.Decimal.Number
import DirectoryAuth.Text.Quoted

/-!
# Plain values

A host application may hand over settings, filter parameters and attribute values that are not
text. Every plain value has one written form, which is what the library goes on with.
-/

namespace DirectoryAuth

inductive Scalar where
  | text (s : String)
  | integer (n : Int)
  | number (x : Decimal.Binary64)
  | truth (b : Bool)
  | nothing
  deriving DecidableEq, Repr

namespace Scalar

/-- The written form. -/
def written : Scalar → String
  | .text s => s
  | .integer n => toString n
  | .number x => x.text
  | .truth b => Text.shownBool b
  | .nothing => "None"

end Scalar

end DirectoryAuth
