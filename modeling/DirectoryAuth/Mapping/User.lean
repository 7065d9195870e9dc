import DirectoryAuth.Settings.Basic
import DirectoryAuth.Template

/-!
# User mappings

Where the entry of a user is, how it is found from the login, and which of its attributes hold the
name and the email address.
-/

namespace DirectoryAuth

/-- The base name that belongs to a realm: one component for each label. -/
def realmBase (realm : String) : String :=
  let labels := (Text.trim realm).splitOn "."
  String.intercalate "," ((labels.filter (· ≠ "")).map ("dc=" ++ ·))

structure UserMapping where
  base : String
  /-- A filter template whose marker 0 stands for the login. -/
  request : String
  nameAttribute : String
  emailAttribute : String
  deriving DecidableEq, Repr

namespace UserMapping

open Template

def defaultClass : String := "inetOrgPerson"

def defaultLoginAttribute : String := "uid"

def defaultNameAttribute : String := "cn"

def defaultEmailAttribute : String := "mail"

/-- A request for one class and one attribute. -/
def requestFor (objectClass loginAttribute : String) : String :=
  "(&(objectClass=" ++ objectClass ++ ")(" ++ loginAttribute ++ "=\x7blogin\x7d))"

/-- Reads the marker of the login. -/
def readLogin : Reader Unit := fun cs =>
  if "login\x7d".toList.isPrefixOf cs then some ((), 6) else none

/-- A request with the login's marker numbered. -/
def numberedRequest (request : String) : String :=
  String.ofList (expand (fun _ => numbered 0) (pieces readLogin request.toList))

/-- The request made from a class and an attribute, which are older settings than the request. -/
def olderRequest? (v : View) : Option String :=
  match v.text? "user.objectClass", v.text? "user.loginAttribute" with
  | none, none => none
  | objectClass, login =>
    some (requestFor (objectClass.getD defaultClass) (login.getD defaultLoginAttribute))

/-- The base from its own setting, else from the realm. -/
def base? (v : View) : Option String :=
  match v.text? "user.baseDn" with
  | some base => some base
  | none =>
    match v.text? "realm" with
    | none => none
    | some realm =>
      let base := realmBase realm
      if base.isEmpty then none else some base

def ofView (v : View) : Except SettingError UserMapping :=
  match base? v with
  | none => .error (.noUserBase (v.name "user.baseDn") (v.name "realm"))
  | some base =>
    let request := (olderRequest? v).getD
      (v.text "user.request" (requestFor defaultClass defaultLoginAttribute))
    .ok {
      base := base
      request := numberedRequest request
      nameAttribute := v.text "user.realNameAttribute" defaultNameAttribute
      emailAttribute := v.text "user.emailAttribute" defaultEmailAttribute }

/-- What to say to a user of the older settings. -/
def advice? (v : View) : Option String :=
  (olderRequest? v).map fun request =>
    v.replacementAdvice "user.objectClass" "user.loginAttribute" "user.request" request

/-- The mapping in a message. -/
def shown (m : UserMapping) : String :=
  s!"UserMapping(base_dn={Text.quoted m.base}, request={Text.quoted m.request}, " ++
    s!"real_name_attribute={Text.quoted m.nameAttribute}, " ++
    s!"email_attribute={Text.quoted m.emailAttribute})"

end UserMapping

end DirectoryAuth
