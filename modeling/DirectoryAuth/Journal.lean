/-!
# Log records

What the library tells about its work, apart from results. A record has a level, the component it
comes from and a message; which records are shown is for the host application to decide.
-/

namespace DirectoryAuth

inductive Level where
  | debug | info | warning | error | critical
  deriving DecidableEq, Repr

namespace Level

def rank : Level → Nat
  | .debug => 0 | .info => 1 | .warning => 2 | .error => 3 | .critical => 4

def name : Level → String
  | .debug => "DEBUG" | .info => "INFO" | .warning => "WARNING" | .error => "ERROR"
  | .critical => "CRITICAL"

/-- The level of a name in capitals. -/
def ofName? (name : String) : Option Level :=
  [debug, info, warning, error, critical].find? (·.name = name)

end Level

/-- The parts of the library that write records. -/
inductive Component where
  | settings | realm | connection | discovery | login | search | users | groups
  deriving DecidableEq, Repr

/-- The name under which a component writes. -/
def Component.name : Component → String
  | .settings => "ldap_realm.settings"
  | .realm => "ldap_realm.realm"
  | .connection => "ldap_realm.ldap.connection"
  | .discovery => "ldap_realm.ldap.discovery"
  | .login => "ldap_realm.ldap.auth"
  | .search => "ldap_realm.ldap.search"
  | .users => "ldap_realm.ldap.users"
  | .groups => "ldap_realm.ldap.groups"

structure LogRecord where
  level : Level
  component : Component
  message : String
  deriving DecidableEq, Repr

end DirectoryAuth
