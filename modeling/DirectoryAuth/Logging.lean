import DirectoryAuth.Journal
import DirectoryAuth.Text.Blank
import DirectoryAuth.Text.Case

/-!
# Showing log records

Which records a command shows, and the line that each becomes.
-/

namespace DirectoryAuth.Logging

/-- The level of a setting, whatever its letter case; anything else means warnings. -/
def levelOf (setting : Option String) : Level :=
  let name := (setting.filter (· ≠ "")).getD Level.warning.name
  (Level.ofName? (Text.upper (Text.trim name))).getD .warning

/-- The lowest level at which the directory client tells of its own work. -/
def clientLevel (level : Level) : Level := if level = .debug then .debug else .warning

def isShown (lowest level : Level) : Bool := lowest.rank ≤ level.rank

/-- A text filled up with blanks to a width. -/
def padded (width : Nat) (s : String) : String :=
  s ++ String.ofList (List.replicate (width - s.length) ' ')

/-- The line of a record that the writer of the given name wrote. -/
def line (time : String) (level : Level) (writer message : String) : String :=
  s!"{time} [{padded 8 level.name}] {writer}: {message}\n"

/-- The line of a record of the library. -/
def recordLine (time : String) (record : LogRecord) : String :=
  line time record.level record.component.name record.message

end DirectoryAuth.Logging
