import DirectoryAuth.Mapping.Group
import DirectoryAuth.Mapping.User
import DirectoryAuth.Network.Call
import DirectoryAuth.Text.Blank

/-!
# Servers

The configuration of one directory server: where it is, how connections to it are made and who
they are bound as, how users and groups are found in it, and the limits on searches.
-/

namespace DirectoryAuth

/-- How a connection proves who it acts for. -/
inductive Mechanism where
  | simple | digestMd5 | cramMd5 | gssapi
  | unknown (name : String)
  deriving DecidableEq, Repr

namespace Mechanism

def name : Mechanism → String
  | simple => "simple"
  | digestMd5 => "DIGEST-MD5"
  | cramMd5 => "CRAM-MD5"
  | gssapi => "GSSAPI"
  | unknown name => name

/-- The mechanisms that are negotiated within a bind. -/
def negotiated : List Mechanism := [digestMd5, cramMd5, gssapi]

def isSasl (m : Mechanism) : Bool := negotiated.contains m

/-- The mechanism of a setting; letter case does not count, and an absent one is simple. -/
def ofText : Option String → Mechanism
  | none => simple
  | some text =>
    if text.isEmpty || Text.lower text == simple.name then simple
    else (negotiated.find? (·.name == Text.upper text)).getD (unknown text)

end Mechanism

/-- Limits of a search, zero for none. A page size asks for the answer page by page. -/
structure Limits where
  size : Int
  time : Int
  page : Int
  deriving DecidableEq, Repr

def Limits.none : Limits := ⟨0, 0, 0⟩

structure Server where
  key : String
  urls : List String
  users : UserMapping
  groups : Option GroupMapping
  realm : Option String
  mechanism : Mechanism
  bindName : Option String
  bindPassword : Option String
  startTls : Bool
  connectTimeout : Decimal.Binary64
  readTimeout : Decimal.Binary64
  limits : Limits
  followReferrals : Bool
  tls : TlsPolicy
  deriving DecidableEq, Repr

namespace Server

/-- The key of the server that is configured without a list of servers. -/
def defaultKey : String := "default"

/-- The root of all settings. -/
def settingsRoot : String := "ldap"

/-- The root of the settings of a server. -/
def rootOf (key : String) : String :=
  if key == defaultKey then settingsRoot else settingsRoot ++ "." ++ key

def root (s : Server) : String := rootOf s.key

/-- The URLs of a server as one text. -/
def address (s : Server) : String := String.intercalate " " s.urls

/-- The policy for a connection. The authority file counts only where servers are verified. -/
def tlsPolicy (s : Server) : TlsPolicy :=
  if s.tls.verify then s.tls else { s.tls with authorityFile := none }

/-- The server in a message: all of its configuration but the password. -/
def shown (s : Server) : String :=
  let fields := [
    ("key", Text.quoted s.key),
    ("urls", Text.quotedTuple s.urls),
    ("user_mapping", s.users.shown),
    ("group_mapping", (s.groups.map (·.shown)).getD "None"),
    ("realm", Text.quotedOption s.realm),
    ("authentication", Text.quoted s.mechanism.name),
    ("bind_dn", Text.quotedOption s.bindName),
    ("start_tls", Text.shownBool s.startTls),
    ("sasl_realm", Text.quotedOption s.realm),
    ("connect_timeout", s.connectTimeout.text),
    ("read_timeout", s.readTimeout.text),
    ("size_limit", toString s.limits.size),
    ("time_limit", toString s.limits.time),
    ("page_size", toString s.limits.page),
    ("follow_referrals", Text.shownBool s.followReferrals),
    ("tls_verify", Text.shownBool s.tls.verify),
    ("ca_certs_file", Text.quotedOption s.tls.authorityFile)]
  "ServerConfig(" ++
    String.intercalate ", " (fields.map fun (name, value) => name ++ "=" ++ value) ++ ")"

end Server

end DirectoryAuth
