/-!
# Templates with markers

A template is text with markers in braces. What counts as a marker is left to a reader that is
asked behind each opening brace: it gives the marker's value and the number of characters up to
and including the closing brace. A template is read in one pass from left to right, so nothing
that stands inside a marker is read twice, and a brace that opens no marker is text.
-/

namespace DirectoryAuth.Template

variable {α : Type}

inductive Piece (α : Type) where
  | char (c : Char)
  | marker (value : α)
  deriving DecidableEq, Repr

/-- A reader of markers, asked behind an opening brace. -/
abbrev Reader (α : Type) := List Char → Option (α × Nat)

/-- The pieces of a template, in order. -/
def pieces (read : Reader α) : List Char → List (Piece α)
  | [] => []
  | c :: cs =>
    if c = '{' then
      match read cs with
      | some (value, length) => .marker value :: pieces read (cs.drop length)
      | none => .char c :: pieces read cs
    else .char c :: pieces read cs
termination_by cs => cs.length
decreasing_by all_goals simp only [List.length_drop, List.length_cons]; omega

/-- The text of pieces, each marker written by `write`. -/
def expand (write : α → List Char) (parts : List (Piece α)) : List Char :=
  parts.flatMap fun
    | .char c => [c]
    | .marker value => write value

/-- The values of the markers, in order. -/
def markers (parts : List (Piece α)) : List α :=
  parts.filterMap fun
    | .char _ => none
    | .marker value => some value

/-- A marker with a number. -/
def numbered (n : Nat) : List Char := '{' :: Nat.toDigits 10 n ++ ['}']

end DirectoryAuth.Template
