import DirectoryAuth.Failure
import DirectoryAuth.Scalar
import DirectoryAuth.Text.Case

/-!
# Settings

Settings are a flat list of names and values. A view reads the settings whose names share a root;
a value that is missing or blank counts as absent, whatever type is asked for.
-/

namespace DirectoryAuth

/-- Names with their values; no name occurs twice. -/
structure Settings where
  entries : List (String × Scalar)
  deriving DecidableEq, Repr

namespace Settings

def empty : Settings := ⟨[]⟩

def get? (s : Settings) (name : String) : Option Scalar := s.entries.lookup name

/-- Gives a name a value, at its place if it had one. -/
def insert (s : Settings) (name : String) (value : Scalar) : Settings :=
  if s.entries.any (·.1 == name) then
    ⟨s.entries.map fun entry => if entry.1 == name then (name, value) else entry⟩
  else ⟨s.entries ++ [(name, value)]⟩

def ofList (entries : List (String × Scalar)) : Settings :=
  entries.foldl (fun s (name, value) => s.insert name value) empty

/-- The settings with those of another list over them. -/
def update (s other : Settings) : Settings :=
  other.entries.foldl (fun s (name, value) => s.insert name value) s

/-- The text of a setting, without surrounding blanks. A missing or blank setting has none. -/
def text? (s : Settings) (name : String) : Option String :=
  match s.get? name with
  | none | some .nothing => none
  | some value =>
    let text := Text.trim value.written
    if text.isEmpty then none else some text

/-- Splits an override at its first equals sign. -/
def splitOverride (cs : List Char) : Option (List Char × List Char) :=
  match cs.dropWhile (· ≠ '=') with
  | [] => none
  | _ :: value => some (cs.takeWhile (· ≠ '='), value)

/-- Puts one override `name=value` over the settings. -/
def override (s : Settings) (text : String) : Except SettingError Settings :=
  match splitOverride text.toList with
  | none => .error (.badOverride text)
  | some (name, value) =>
    let name := Text.trimChars name
    if name.isEmpty then .error (.badOverride text)
    else .ok (s.insert (String.ofList name) (.text (String.ofList (Text.trimChars value))))

/-- Puts overrides over the settings, the later ones over the earlier ones. -/
def overrideAll (s : Settings) (texts : List String) : Except SettingError Settings :=
  texts.foldlM override s

end Settings

/-- The settings whose names start with a root and a dot. -/
structure View where
  settings : Settings
  root : String

namespace View

/-- The full name of a setting. -/
def name (v : View) (key : String) : String := v.root ++ "." ++ key

def text? (v : View) (key : String) : Option String := v.settings.text? (v.name key)

def text (v : View) (key default : String) : String := (v.text? key).getD default

/-- Advice to replace two older settings by one. -/
def replacementAdvice (v : View) (first second newer value : String) : String :=
  s!"Properties '{v.name first}' and '{v.name second}' " ++
    "are deprecated and should be replaced by single property " ++
    s!"'{v.name newer}' with value: {value}"

/-- The words for true and for false, in lower case. -/
def trueWords : List String := ["true", "yes", "on", "1"]

def falseWords : List String := ["false", "no", "off", "0"]

def readTruth? (s : String) : Option Bool :=
  let word := Text.lower s
  if trueWords.contains word then some true
  else if falseWords.contains word then some false
  else none

/-- Reads a setting that must have a form; an absent one is `none`. -/
def read? {α : Type} (v : View) (key : String) (read : String → Option α)
    (error : String → String → SettingError) : Except SettingError (Option α) :=
  match v.text? key with
  | none => .ok none
  | some value =>
    match read value with
    | some x => .ok (some x)
    | none => .error (error (v.name key) value)

def truth? (v : View) (key : String) : Except SettingError (Option Bool) :=
  v.read? key readTruth? .notTruth

def integer? (v : View) (key : String) : Except SettingError (Option Int) :=
  v.read? key Decimal.readInteger? .notInteger

def number? (v : View) (key : String) : Except SettingError (Option Decimal.Binary64) :=
  v.read? key Decimal.readNumber? .notNumber

def truth (v : View) (key : String) (default : Bool) : Except SettingError Bool :=
  return (← v.truth? key).getD default

def integer (v : View) (key : String) (default : Int) : Except SettingError Int :=
  return (← v.integer? key).getD default

def number (v : View) (key : String) (default : Decimal.Binary64) :
    Except SettingError Decimal.Binary64 :=
  return (← v.number? key).getD default

end View

end DirectoryAuth
