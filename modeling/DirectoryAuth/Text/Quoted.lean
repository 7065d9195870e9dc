import DirectoryAuth.Text.Digit
import DirectoryAuth.Text.PrintableTable
import DirectoryAuth.Text.Ranges

/-!
# Quoted text

Text as it is shown inside messages: between quotes, with the quote in use, backslashes and
characters that do not print escaped. Single quotes are used unless the text has single quotes and
no double quotes.
-/

namespace DirectoryAuth.Text

def isPrintable (c : Char) : Bool := inRanges printableRanges c

/-- An unprintable character by its code point, in two, four or eight hexadecimal digits. -/
def escapedCode (n : Nat) : List Char :=
  if n < 0x100 then '\\' :: 'x' :: hexPadded 2 n
  else if n < 0x10000 then '\\' :: 'u' :: hexPadded 4 n
  else '\\' :: 'U' :: hexPadded 8 n

/-- One character between quotes of the given kind. -/
def quotedChar (quote c : Char) : List Char :=
  if c = quote || c = '\\' then ['\\', c]
  else if c = '\n' then ['\\', 'n']
  else if c = '\r' then ['\\', 'r']
  else if c = '\t' then ['\\', 't']
  else if isPrintable c then [c]
  else escapedCode c.toNat

/-- The quote that a text is shown in. -/
def quoteFor (cs : List Char) : Char :=
  if cs.contains '\'' && !cs.contains '"' then '"' else '\''

def quotedChars (cs : List Char) : List Char :=
  let quote := quoteFor cs
  quote :: cs.flatMap (quotedChar quote) ++ [quote]

def quoted (s : String) : String := String.ofList (quotedChars s.toList)

/-- A text that may be missing. -/
def quotedOption : Option String → String
  | some s => quoted s
  | none => "None"

/-- A list of texts, in square brackets. -/
def quotedList (texts : List String) : String :=
  "[" ++ String.intercalate ", " (texts.map quoted) ++ "]"

/-- A sequence of fixed length, in parentheses; a comma tells a single text from a bracket. -/
def quotedTuple : List String → String
  | [s] => "(" ++ quoted s ++ ",)"
  | texts => "(" ++ String.intercalate ", " (texts.map quoted) ++ ")"

/-- A truth value as messages show it. -/
def shownBool (b : Bool) : String := if b then "True" else "False"

end DirectoryAuth.Text
