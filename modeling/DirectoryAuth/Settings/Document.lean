import DirectoryAuth.Failure
import DirectoryAuth.Text.Blank

/-!
# Sections of options

A configuration file consists of sections, each headed by its name in square brackets, of options
`name = value` or `name : value`. A line that is indented deeper than its option goes on with the
value, blank lines between included. Lines that start with `#` or `;` are comments. The options of
the section `DEFAULT` belong to every section.

No section and no option of a section is given twice. Lines that are neither are collected, and
the file is refused at its end.
-/

namespace DirectoryAuth

/-- An option with the lines of its value. -/
structure FileOption where
  owner : String
  name : String
  lines : List (List Char)
  deriving DecidableEq, Repr

namespace FileOption

/-- The value: its lines, without blanks at the end. -/
def value (o : FileOption) : String :=
  String.ofList (Text.trimRight (['\n'].intercalate o.lines))

end FileOption

structure Document where
  /-- The names of the sections, in order. -/
  sections : List String
  /-- The options, in order. -/
  options : List FileOption
  deriving DecidableEq, Repr

namespace Document

open Text

/-- The section whose options belong to every section. -/
def defaultSection : String := "DEFAULT"

/-- The options of a section by name, those that belong to every section included. -/
def optionsOf (d : Document) (name : String) : List (String × String) :=
  let own := fun owner =>
    (d.options.filter (·.owner == owner)).map fun o => (o.name, o.value)
  own defaultSection ++ own name

/-! ## Reading -/

/-- How far a file was read. -/
structure Reader where
  /-- The name under which the file is spoken of. -/
  file : String
  sections : List String
  /-- The options, the latest first. -/
  options : List FileOption
  /-- The section that options belong to. -/
  owner : Option String
  /-- May a line go on with the latest option? -/
  isOpen : Bool
  indent : Nat
  bad : List (Nat × String)

namespace Reader

def start (file : String) : Reader := ⟨file, [], [], none, false, 0, []⟩

/-- Adds a line to the value of the latest option. -/
def extend (r : Reader) (line : List Char) : Reader :=
  match r.options with
  | [] => r
  | o :: rest => { r with options := { o with lines := o.lines ++ [line] } :: rest }

/-- The name in a section line: all up to the last closing bracket. -/
def sectionName? (line : List Char) : Option String :=
  match line with
  | '[' :: cs =>
    let name := (cs.reverse.dropWhile (· ≠ ']')).drop 1
    if name.isEmpty then none else some (String.ofList name.reverse)
  | _ => none

def isDivider (c : Char) : Bool := c == '=' || c == ':'

/-- Divides an option line at its first equals sign or colon. -/
def divide? (line : List Char) : Option (List Char × List Char) :=
  match line.dropWhile (!isDivider ·) with
  | [] => none
  | _ :: value => some (trimChars (line.takeWhile (!isDivider ·)), trimChars value)

/-- Notes a line that is of no use. -/
def refuse (r : Reader) (number : Nat) (line : List Char) : Reader :=
  { r with bad := r.bad ++ [(number, String.ofList line)] }

def beginSection (r : Reader) (number : Nat) (name : String) : Except FileError Reader :=
  let r := { r with owner := some name, isOpen := false }
  if r.sections.contains name then .error (.repeatedSection r.file number name)
  else if name = defaultSection then .ok r
  else .ok { r with sections := r.sections ++ [name] }

/-- Adds an option to a section. One without a name is never gone on with. -/
def beginOption (r : Reader) (number : Nat) (owner : String) (name value : List Char) :
    Except FileError Reader :=
  let text := String.ofList name
  if r.options.any fun o => o.owner == owner && o.name == text then
    .error (.repeatedOption r.file number owner text)
  else
    .ok { r with
      options := ⟨owner, text, [value]⟩ :: r.options
      isOpen := !name.isEmpty }

/-- Reads a line that starts something: `text` is the line without blanks around it. -/
def heading (r : Reader) (number : Nat) (line text : List Char) : Except FileError Reader :=
  match sectionName? text, r.owner with
  | some name, _ => r.beginSection number name
  | none, none => .error (.noSection r.file number (String.ofList line))
  | none, some owner =>
    match divide? text with
    | none => .ok (r.refuse number line)
    | some (name, value) =>
      let r := if name.isEmpty then r.refuse number line else r
      r.beginOption number owner name value

/-- Reads a line. -/
def step (r : Reader) (number : Nat) (line : List Char) : Except FileError Reader :=
  let text := trimChars line
  match text with
  | [] => .ok (if r.isOpen then r.extend [] else r)
  | c :: _ =>
    let indent := (line.takeWhile isBlank).length
    if c = '#' || c = ';' then .ok r
    else if r.isOpen && r.indent < indent then .ok (r.extend text)
    else { r with indent := indent }.heading number line text

/-- Reads lines, the first of them with the given number. -/
def readFrom (r : Reader) (number : Nat) : List (List Char) → Except FileError Reader
  | [] => .ok r
  | line :: lines => do readFrom (← r.step number line) (number + 1) lines

/-- The document of a file that was read to its end. -/
def document (r : Reader) : Except FileError Document :=
  if r.bad.isEmpty then .ok ⟨r.sections, r.options.reverse⟩
  else .error (.badLines r.file r.bad)

end Reader

/-- Reads the lines of a file; a part that is malformed ends them. -/
def read (file : String) (lines : List (List Char)) (malformed : Option Text.Malformed) :
    Except FileError Document := do
  let r ← (Reader.start file).readFrom 1 lines
  match malformed with
  | some part => .error (.notUtf8 part)
  | none => r.document

end Document

end DirectoryAuth
