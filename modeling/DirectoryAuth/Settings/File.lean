import DirectoryAuth.Network.Operation
import DirectoryAuth.Server
import DirectoryAuth.Settings.Basic
import DirectoryAuth.Settings.Document
import DirectoryAuth.Settings.Lines
import DirectoryAuth.Settings.Sample

/-!
# Settings in files

The section `ldap` of a file holds the settings below `ldap`, and a section `ldap.x` those below
`ldap.x`. Other sections are none of the library's business.
-/

namespace DirectoryAuth.Settings

/-- Do the options of a section become settings? -/
def isSettingsSection (name : String) : Bool :=
  name == Server.settingsRoot || (Server.settingsRoot ++ ".").toList.isPrefixOf name.toList

/-- The settings of a document; a later section wins over an earlier one. -/
def ofDocument (d : Document) : Settings :=
  ofList ((d.sections.filter isSettingsSection).flatMap fun owner =>
    (d.optionsOf owner).map fun (name, value) => (owner ++ "." ++ name, .text value))

/-- The settings in the bytes of a file. -/
def ofBytes (path : String) (bytes : List UInt8) : Except FileError Settings :=
  let (lines, malformed) := Lines.ofBytes bytes
  (Document.read path lines malformed).map ofDocument

variable {σ : Type}

/-- Loads the settings of a file. -/
def load (path : String) : Operation σ Settings := do
  match ← (Operation.perform (.readFile path)).attempt with
  | .ok bytes => Operation.ofOutcome ((ofBytes path bytes).mapError .file)
  | .error (.outside fault) =>
    throw (if fault.isSystem then .setting (.unreadableFile path) else .outside fault)
  | .error failure => throw failure

/-- Writes a sample file, or gives its text where there is no path to write to. -/
def generate (path : Option String) : Operation σ String := do
  match path.filter (· ≠ "") with
  | some path =>
    Operation.perform (.writeFile path sample)
    pure s!"Configuration template written to: {path}"
  | none => pure sample

end DirectoryAuth.Settings
