import DirectoryAuth.Network.Call
import DirectoryAuth.Text.Blank
import DirectoryAuth.Text.Case
import DirectoryAuth.Text.Utf8

/-!
# Entries

An entry has a name in the directory and attributes with lists of text values. Attribute names are
compared without regard to letter case and surrounding blanks.
-/

namespace DirectoryAuth

/-- Attributes in the order in which their names first came. No two names compare equal. -/
structure Attributes where
  entries : List (String × List String)
  deriving DecidableEq, Repr

namespace Attributes

def empty : Attributes := ⟨[]⟩

/-- What two spellings of one attribute name have in common. -/
def key (name : String) : String := Text.lower (Text.trim name)

def get? (a : Attributes) (name : String) : Option (List String) :=
  (a.entries.find? fun entry => key entry.1 == key name).map (·.2)

/-- Gives an attribute its values; a name that is already there keeps its spelling and place. -/
def insert (a : Attributes) (name : String) (values : List String) : Attributes :=
  if a.entries.any (key ·.1 == key name) then
    ⟨a.entries.map fun entry =>
      if key entry.1 == key name then (entry.1, values) else entry⟩
  else ⟨a.entries ++ [(name, values)]⟩

def ofList (entries : List (String × List String)) : Attributes :=
  entries.foldl (fun a (name, values) => a.insert name values) empty

end Attributes

structure Entry where
  name : String
  attributes : Attributes
  deriving DecidableEq, Repr

namespace Entry

/-- All values of an attribute. -/
def values (e : Entry) (name : String) : List String := (e.attributes.get? name).getD []

/-- The first value of an attribute. -/
def first? (e : Entry) (name : String) : Option String := (e.values name).head?

/-- The entry in a message. -/
def shown (e : Entry) : String := s!"LdapEntry({Text.quoted e.name})"

/-- The name by which groups and users are told apart. -/
def key (e : Entry) : String := Text.lower e.name

end Entry

/-- A value as text. -/
def RawValue.text : RawValue → String
  | .bytes encoded => Text.ofBytes encoded
  | .plain value => value.written

namespace Item

/-- The kind of the items that are entries. -/
def entryKind : String := "searchResEntry"

def isEntry (item : Item) : Bool := item.kind == some entryKind

/-- The entry that an item holds. -/
def entry (item : Item) : Entry where
  name := item.name.getD ""
  attributes := .ofList (item.attributes.map fun (name, values) => (name, values.map (·.text)))

end Item

end DirectoryAuth
