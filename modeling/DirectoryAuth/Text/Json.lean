import DirectoryAuth.Text.Digit

/-!
# Writing JSON

Values are written over several lines, two spaces deeper at each level, in ASCII: every other
character is written by its UTF-16 code units.
-/

namespace DirectoryAuth.Text

/-- A JSON value without numbers. -/
inductive Json where
  | null
  | truth (b : Bool)
  | text (s : String)
  | list (items : List Json)
  | object (fields : List (String × Json))

namespace Json

/-- One UTF-16 code unit, escaped. -/
def escapedUnit (n : Nat) : List Char := '\\' :: 'u' :: hexPadded 4 n

/-- One character inside quotes. -/
def escapedChar (c : Char) : List Char :=
  if c = '"' || c = '\\' then ['\\', c]
  else if c = '\n' then ['\\', 'n']
  else if c = '\r' then ['\\', 'r']
  else if c = '\t' then ['\\', 't']
  else if c = '\x08' then ['\\', 'b']
  else if c = '\x0c' then ['\\', 'f']
  else if ' ' ≤ c && c ≤ '~' then [c]
  else if c.toNat < 0x10000 then escapedUnit c.toNat
  else
    let offset := c.toNat - 0x10000
    escapedUnit (0xd800 + offset / 0x400) ++ escapedUnit (0xdc00 + offset % 0x400)

def quote (s : String) : String := "\"" ++ String.ofList (s.toList.flatMap escapedChar) ++ "\""

/-- Lines between two brackets, nothing between them when there are none. -/
def block (opening closing : String) (depth : Nat) (lines : List String) : String :=
  if lines.isEmpty then opening ++ closing
  else
    let indent := fun n => "\n" ++ String.ofList (List.replicate (2 * n) ' ')
    opening ++ indent (depth + 1) ++ String.intercalate ("," ++ indent (depth + 1)) lines ++
      indent depth ++ closing

mutual
/-- A value that starts at the given depth. -/
def writeAt (depth : Nat) : Json → String
  | .null => "null"
  | .truth b => if b then "true" else "false"
  | .text s => quote s
  | .list items => block "[" "]" depth (writeItems (depth + 1) items)
  | .object fields => block "\x7b" "\x7d" depth (writeFields (depth + 1) fields)

def writeItems (depth : Nat) : List Json → List String
  | [] => []
  | item :: items => writeAt depth item :: writeItems depth items

def writeFields (depth : Nat) : List (String × Json) → List String
  | [] => []
  | (name, value) :: fields =>
    (quote name ++ ": " ++ writeAt depth value) :: writeFields depth fields
end

def write (value : Json) : String := writeAt 0 value

end Json

end DirectoryAuth.Text
