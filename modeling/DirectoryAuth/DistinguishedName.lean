import DirectoryAuth.Text.Digit
import DirectoryAuth.Text.Word

/-!
# Distinguished names

A distinguished name is a list of components `type=value` with commas or plus signs between them.
A separator counts where no backslash escapes it. A name is read only as far as its first
component is needed, but a name with any component that is not valid has no components at all.
Values are given as they are written, with their escapes.
-/

namespace DirectoryAuth.DistinguishedName

open Text

/-! ## Separators -/

/-- Which characters of a text are escaped by no backslash; `odd` says whether an odd number of
backslashes stands right in front. -/
def unescapedFrom (odd : Bool) : List Char → List Bool
  | [] => []
  | c :: cs => (!odd) :: unescapedFrom (c == '\\' && !odd) cs

/-- Which characters of a text may be separators. The first never is; a backslash at the front of
the text escapes the second character and counts for no other. -/
def separable : List Char → List Bool
  | [] => []
  | c :: cs =>
    match unescapedFrom false cs with
    | [] => [false]
    | _ :: flags => false :: (c != '\\') :: flags

/-- The places of a character where it may be a separator, in order. -/
def places (separator : Char) (cs : List Char) : List Nat :=
  ((cs.zip (separable cs)).zipIdx.filter fun ((c, free), _) => c == separator && free).map (·.2)

/-- The first place at or behind `start`. -/
def firstFrom (start : Nat) (places : List Nat) : Option Nat := places.find? (start ≤ ·)

/-! ## Components -/

/-- A part of a name with the separator behind it. -/
structure Part where
  text : List Char
  separator : Option Char
  deriving DecidableEq, Repr

/-- The last of the places of a separator in front of the equals sign of the component that begins
behind its first place; `none` where no component begins there. -/
def divider (first : Nat) (places equals : List Nat) : Option Nat :=
  match firstFrom (first + 1) equals with
  | none => none
  | some equal =>
    if first + 1 < equal then (places.filter fun p => first ≤ p && p < equal).getLast? else none

/-- How many characters the first part of a name has, and the separator behind it. -/
def firstPart (cs : List Char) : Nat × Option Char :=
  let commas := places ',' cs
  let pluses := places '+' cs
  let equals := places '=' cs
  let plus := pluses.head?.bind fun first =>
    if commas.head?.all (first < ·) then divider first pluses equals else none
  match plus with
  | some length => (length, some '+')
  | none =>
    match commas.head?.bind fun first => divider first commas equals with
    | some length => (length, some ',')
    | none => (cs.length, none)

/-- The parts of a name, cut at its separators. -/
def parts : List Char → List Part
  | [] => []
  | c :: cs =>
    let (length, separator) := firstPart (c :: cs)
    ⟨(c :: cs).take length, separator⟩ :: parts (cs.drop length)
termination_by cs => cs.length
decreasing_by simp only [List.length_drop, List.length_cons]; omega

/-- Joins a part that has no equals sign to the one before it, here `current`. -/
def joined (current : Part) : List Part → List Part
  | [] => [current]
  | part :: rest =>
    if (places '=' part.text).isEmpty then
      joined ⟨current.text ++ current.separator.toList ++ part.text, part.separator⟩ rest
    else current :: joined part rest

/-- The texts of the components of a name. -/
def components (cs : List Char) : List (List Char) :=
  match parts cs with
  | [] => []
  | first :: rest => (joined first rest).map (·.text)

/-! ## Types and values -/

/-- Divides at the first equals sign that has no backslash right in front; `kind` is what was read
before. -/
def divide (kind : List Char) : List Char → Option (List Char × List Char)
  | [] => none
  | c :: cs =>
    if c == '=' && kind.getLast? != some '\\' then some (kind, cs) else divide (kind ++ [c]) cs

def isTypeChar (c : Char) : Bool := isBasicLetter c || isBasicDigit c || c == '-'

/-- Letters, digits and hyphens, a letter first; or the mark of an identifier in angle brackets. -/
def isType : List Char → Bool
  | [] => false
  | c :: cs => c :: cs == "<GUID".toList || (isBasicLetter c && cs.all isTypeChar)

/-- The characters that stand in a value only behind a backslash. -/
def isSpecial (c : Char) : Bool := "\"#+,;<=>\x00".toList.contains c

/-- Does a value have no special character of its own, and end no escape early? -/
def isEscaped : List Char → Bool
  | [] => true
  | '\\' :: c :: cs =>
    if isHexDigit c then
      match cs with
      | d :: rest => isHexDigit d && isEscaped rest
      | [] => false
    else (isSpecial c || c == ' ' || c == '\\') && isEscaped cs
  | c :: cs => c != '\\' && !isSpecial c && isEscaped cs

/-- A value is not empty, is escaped, and has no blank at an end unless it is escaped there. -/
def isValue (cs : List Char) : Bool :=
  !cs.isEmpty && cs.head? != some ' ' &&
    (cs.getLast? != some ' ' || cs.dropLast.getLast? == some '\\') && isEscaped cs

/-- The value of a component, if its type and value are valid. -/
def componentValue? (cs : List Char) : Option (List Char) :=
  match cs with
  | '=' :: _ => none
  | _ =>
    match divide [] cs with
    | some (kind, value) => if isType kind && isValue value then some value else none
    | none => none

/-- The values of all components of a name that is valid. -/
def values? (cs : List Char) : Option (List (List Char)) := (components cs).mapM componentValue?

/-- The value of the first component, if the whole name is valid. -/
def firstValue? (name : String) : Option String :=
  ((values? name.toList).bind (·.head?)).map String.ofList

end DirectoryAuth.DistinguishedName
