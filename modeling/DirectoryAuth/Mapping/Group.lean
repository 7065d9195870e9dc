import DirectoryAuth.Settings.Basic
import DirectoryAuth.Template
import DirectoryAuth.Text.Word

/-!
# Group mappings

How the groups of a user or group are found. Groups may list their members, and then a search below
a base finds the groups of a member; members may list their groups, and then an attribute names
them. Both styles may be in use at once.
-/

namespace DirectoryAuth

/-- A search for the groups that list a member. -/
structure MemberSearch where
  base : String
  /-- A filter template with a numbered marker for each of `names`. -/
  request : String
  /-- What the markers stand for: the member's name in the directory, or one of its attributes. -/
  names : List String
  deriving DecidableEq, Repr

structure GroupMapping where
  listing : Option MemberSearch
  /-- The attribute of a member that names its groups. -/
  memberOf : Option String
  idAttribute : String
  /-- Are groups of groups followed too? -/
  nested : Bool
  deriving DecidableEq, Repr

namespace GroupMapping

open Template Text

def defaultClass : String := "groupOfUniqueNames"

def defaultMemberAttribute : String := "uniqueMember"

def defaultIdAttribute : String := "cn"

/-- Does a name stand for the member's own name in the directory? -/
def isMemberName (name : String) : Bool := lower name == "dn"

/-- A request for one class and one attribute. -/
def requestFor (objectClass memberAttribute : String) : String :=
  "(&(objectClass=" ++ objectClass ++ ")(" ++ memberAttribute ++ "=\x7bdn\x7d))"

def isNameChar (c : Char) : Bool := isWordChar c || c == '.' || c == '-'

/-- Reads a named marker: a basic letter, more characters of a name, and a closing brace. -/
def readName : Reader String := fun cs =>
  match cs with
  | [] => none
  | c :: rest =>
    let tail := rest.takeWhile isNameChar
    match isBasicLetter c, rest.dropWhile isNameChar with
    | true, '}' :: _ => some (String.ofList (c :: tail), tail.length + 2)
    | _, _ => none

/-- The names of markers, each once in its first spelling; letter case does not count. -/
def distinctNames (names : List String) : List String :=
  names.foldl (fun seen name =>
    if seen.any (lower · == lower name) then seen else seen ++ [name]) []

/-- The number of a name among distinct names. -/
def numberOf (names : List String) (name : String) : Nat :=
  names.findIdx (lower · == lower name)

/-- A template with its named markers numbered, and the names in the order of their numbers. -/
def numberedRequest (template : String) : String × List String :=
  let parts := pieces readName template.toList
  let names := distinctNames (markers parts)
  (String.ofList (expand (fun name => numbered (numberOf names name)) parts), names)

/-- The request made from a class and an attribute, which are older settings than the request. -/
def olderRequest? (v : View) : Option String :=
  match v.text? "group.objectClass", v.text? "group.memberAttribute" with
  | none, none => none
  | objectClass, member =>
    some (requestFor (objectClass.getD defaultClass) (member.getD defaultMemberAttribute))

def listing? (v : View) : Option MemberSearch :=
  (v.text? "group.baseDn").map fun base =>
    let template := (olderRequest? v).getD
      (v.text "group.request" (requestFor defaultClass defaultMemberAttribute))
    let (request, names) := numberedRequest template
    ⟨base, request, names⟩

/-- The mapping of a server, `none` when neither style is configured. -/
def ofView (v : View) : Except SettingError (Option GroupMapping) :=
  match listing? v, v.text? "group.memberOfAttribute" with
  | none, none => .ok none
  | listing, memberOf => do
    let nested ← v.truth "group.nested" false
    return some {
      listing := listing
      memberOf := memberOf
      idAttribute := v.text "group.idAttribute" defaultIdAttribute
      nested := nested }

/-- What to say to a user of the older settings. -/
def advice? (v : View) : Option String :=
  match v.text? "group.baseDn" with
  | none => none
  | some _ => (olderRequest? v).map fun request =>
    v.replacementAdvice "group.objectClass" "group.memberAttribute" "group.request" request

/-- The attributes of a member that are needed to find its groups. -/
def memberAttributes (m : GroupMapping) : List String :=
  let names := (m.listing.map (·.names)).getD []
  names.filter (!isMemberName ·) ++ m.memberOf.toList

/-- The attributes of a group that are asked for. -/
def groupAttributes (m : GroupMapping) : List String :=
  m.idAttribute :: if m.nested then m.memberAttributes else []

/-- The mapping in a message. -/
def shown (m : GroupMapping) : String :=
  s!"GroupMapping(base_dn={quotedOption (m.listing.map (·.base))}, " ++
    s!"request={quotedOption (m.listing.map (·.request))}, " ++
    s!"required_user_attributes={quotedTuple ((m.listing.map (·.names)).getD [])}, " ++
    s!"id_attribute={quoted m.idAttribute}, " ++
    s!"member_of_attribute={quotedOption m.memberOf}, nested={shownBool m.nested})"

end GroupMapping

end DirectoryAuth
