import DirectoryAuth.Decimal.Integer
import DirectoryAuth.Fault
import DirectoryAuth.Password
import DirectoryAuth.Text.Utf8

/-!
# Failures

Everything an operation can end with instead of a value, by cause. Each failure has one message,
and where another failure or a fault led to it, that is its cause. Failures that the library
foresees are told apart from faults that nothing translated.
-/

namespace DirectoryAuth

/-- A setting is missing, or its value is of no use. -/
inductive SettingError where
  | notTruth (name value : String)
  | notInteger (name value : String)
  | notNumber (name value : String)
  | emptyServerKey (value : String)
  | repeatedServerKey (key : String)
  | noUrl (urlName realmName : String)
  | nothingDiscovered (urlName realm : String)
  | noUserBase (baseName realmName : String)
  | unsupportedMechanism (mechanism name : String)
  | unknownMechanism (mechanism name : String)
  | noBindName (name : String)
  | noTicketService (fault : Fault)
  | unreadableFile (path : String)
  | badOverride (text : String)
  deriving DecidableEq, Repr

/-- The credentials of a user were turned down. -/
inductive CredentialError where
  | noPassword (principal : String)
  | noPrincipal
  | ticketRefused (principal : String) (fault : Fault)
  | bindRefused (principal description : String) (subcode : Option Nat)
  deriving DecidableEq, Repr

/-- A session could not be opened. -/
inductive ConnectionError where
  | notOpened (address : String) (fault : Fault)
  | tlsFailed (address : String) (fault : Fault)
  | tlsRefused (address description : String)
  | notBound (address : String) (fault : Fault)
  | bindRefused (account address description : String)
  | noTicketIssuer (principal : String) (fault : Fault)
  | serviceTicket (principal address : String) (cause : CredentialError)
  | noAnswer (login : String)
  deriving DecidableEq, Repr

/-- A search failed, or did not give the one entry it was to give. -/
inductive SearchError where
  | noParameter (index : Nat) (template : String)
  | closed (server base : String)
  | failed (base filter : String) (fault : Fault)
  | pageFailed (base filter : String) (fault : Fault)
  | refused (base filter description : String)
  | unreadable (base description : String)
  | noSuchBase (base : String)
  | ambiguous (filter base : String)
  deriving DecidableEq, Repr

/-- A configuration file cannot be read as sections of options. -/
inductive FileError where
  | noSection (file : String) (line : Nat) (text : String)
  | repeatedSection (file : String) (line : Nat) (name : String)
  | repeatedOption (file : String) (line : Nat) (owner name : String)
  | badLines (file : String) (lines : List (Nat × String))
  | notUtf8 (malformed : Text.Malformed)
  deriving DecidableEq, Repr

inductive Failure where
  | setting (error : SettingError)
  | connection (error : ConnectionError)
  | credentials (error : CredentialError)
  | search (error : SearchError)
  /-- No directory entry matches the login. -/
  | notFound (login : String)
  /-- Details or groups of a login could not be retrieved from a server. -/
  | retrieval (login server : String) (cause : Failure)
  /-- The realm was asked before it was ready. -/
  | notReady (state : String)
  | file (error : FileError)
  /-- The number of a marker in a filter template has more digits than a number may have. -/
  | longMarker (digits : Nat)
  /-- An override was given without any text. -/
  | textlessOverride
  /-- A password that has to be sent in UTF-8 has no form in it. The failure holds the password. -/
  | unencodable (password : Password)
  /-- A fault of the outside world that nothing translated. -/
  | outside (fault : Fault)
  /-- The groups of a user did not come to an end within the bound of the network. -/
  | unbounded
  deriving DecidableEq, Repr

namespace SettingError

def message : SettingError → String
  | .notTruth name value => s!"Property '{name}' must be a boolean, got '{value}'"
  | .notInteger name value => s!"Property '{name}' must be an integer, got '{value}'"
  | .notNumber name value => s!"Property '{name}' must be a number, got '{value}'"
  | .emptyServerKey value =>
    s!"The property 'ldap.servers' contains an empty server key: '{value}'"
  | .repeatedServerKey key => s!"The property 'ldap.servers' lists server '{key}' twice"
  | .noUrl urlName realmName =>
    s!"The property '{urlName}' is empty and no realm is configured in '{realmName}' to discover it"
  | .nothingDiscovered urlName realm =>
    s!"The property '{urlName}' is empty and no LDAP server was found for realm {realm}"
  | .noUserBase baseName realmName =>
    s!"The property '{baseName}' is empty while it is mandatory (or set '{realmName}' to derive it)"
  | .unsupportedMechanism mechanism name =>
    s!"Authentication method {mechanism} configured in '{name}' " ++
      "is not supported by the directory client"
  | .unknownMechanism mechanism name => s!"Unknown authentication method '{mechanism}' in '{name}'"
  | .noBindName name => s!"When using SASL - property {name} is required"
  | .noTicketService _ =>
    "GSSAPI authentication requires the 'gssapi' package (pip install ldap-realm[kerberos])"
  | .unreadableFile path => s!"Configuration file '{path}' does not exist or is unreadable"
  | .badOverride text => s!"Invalid override '{text}', expected key=value"

def cause? : SettingError → Option Fault
  | .noTicketService fault => some fault
  | _ => none

end SettingError

namespace CredentialError

def message : CredentialError → String
  | .noPassword principal => s!"No password given for Kerberos principal {principal}"
  | .noPrincipal => "GSSAPI bind requires a principal"
  | .ticketRefused principal fault => s!"Kerberos login rejected for {principal}: {fault.message}"
  | .bindRefused principal description _ => s!"Bind rejected for {principal}: {description}"

def cause? : CredentialError → Option Fault
  | .ticketRefused _ fault => some fault
  | _ => none

/-- The sub-code that the directory gave with its refusal. -/
def subcode? : CredentialError → Option Nat
  | .bindRefused _ _ subcode => subcode
  | _ => none

end CredentialError

namespace ConnectionError

def message : ConnectionError → String
  | .notOpened address fault => s!"Unable to open LDAP connection to {address}: {fault.message}"
  | .tlsFailed address fault => s!"StartTLS failed on {address}: {fault.message}"
  | .tlsRefused address description => s!"StartTLS failed on {address}: {description}"
  | .notBound address fault => s!"Unable to bind to {address}: {fault.message}"
  | .bindRefused account address description =>
    s!"Bind as {account} rejected by {address}: {description}"
  | .noTicketIssuer principal fault => s!"Unable to reach a KDC for {principal}: {fault.message}"
  | .serviceTicket principal address cause =>
    s!"Kerberos login as {principal} failed for {address}: {cause.message}"
  | .noAnswer login => s!"Unable to authenticate user {login}: no LDAP server could be reached"

def cause? : ConnectionError → Option Failure
  | .notOpened _ fault | .tlsFailed _ fault | .notBound _ fault | .noTicketIssuer _ fault =>
    some (.outside fault)
  | .serviceTicket _ _ cause => some (.credentials cause)
  | _ => none

/-- Did it fail while the connection was being upgraded? -/
def isTls : ConnectionError → Bool
  | .tlsFailed _ _ | .tlsRefused _ _ => true
  | _ => false

end ConnectionError

namespace SearchError

def message : SearchError → String
  | .noParameter index template => s!"No parameter {index} for filter {template}"
  | .closed server base => s!"LDAP context on {server} closed during search in {base}"
  | .failed base filter fault => s!"Search failed in {base} with filter {filter}: {fault.message}"
  | .pageFailed base filter fault =>
    s!"Paged search failed in {base} with filter {filter}: {fault.message}"
  | .refused base filter description =>
    s!"Search failed in {base} with filter {filter}: {description}"
  | .unreadable base description => s!"Unable to read {base}: {description}"
  | .noSuchBase base => s!"Search base {base} does not exist"
  | .ambiguous filter base => s!"Non unique result for {filter} in {base}"

def cause? : SearchError → Option Fault
  | .failed _ _ fault | .pageFailed _ _ fault => some fault
  | _ => none

/-- Does it only say that an entry is not there or may not be read? -/
def isUnreadable : SearchError → Bool
  | .unreadable _ _ | .noSuchBase _ => true
  | _ => false

end SearchError

namespace FileError

/-- A line number in a message, at least two characters wide. -/
def lineNumber (n : Nat) : String := if n < 10 then s!" {n}" else toString n

def message : FileError → String
  | .noSection file line text =>
    s!"File contains no section headers.\nfile: {Text.quoted file}, line: {line}\n{Text.quoted text}"
  | .repeatedSection file line name =>
    s!"While reading from {Text.quoted file} [line {lineNumber line}]: " ++
      s!"section {Text.quoted name} already exists"
  | .repeatedOption file line owner name =>
    s!"While reading from {Text.quoted file} [line {lineNumber line}]: " ++
      s!"option {Text.quoted name} in section {Text.quoted owner} already exists"
  | .badLines file lines =>
    s!"Source contains parsing errors: {Text.quoted file}" ++
      String.join (lines.map fun (n, text) => s!"\n\t[line {lineNumber n}]: {Text.quoted text}")
  | .notUtf8 malformed => malformed.message

end FileError

namespace Failure

def message : Failure → String
  | .setting e => e.message
  | .connection e => e.message
  | .credentials e => e.message
  | .search e => e.message
  | .notFound login => s!"User {login} not found"
  | .retrieval login server _ => s!"Unable to retrieve details for user {login} in {server}"
  | .notReady state => s!"LDAP realm is {state}"
  | .file e => e.message
  | .longMarker digits =>
    s!"Exceeds the limit ({Decimal.digitLimit} digits) for integer string conversion: " ++
      s!"value has {digits} digits; use sys.set_int_max_str_digits() to increase the limit"
  | .textlessOverride => "'list' object has no attribute 'partition'"
  | .unencodable password => password.encodingMessage
  | .outside fault => fault.message
  | .unbounded => "The groups of the user do not come to an end"

/-- What led to the failure. -/
def cause? : Failure → Option Failure
  | .setting e => e.cause?.map .outside
  | .connection e => e.cause?
  | .credentials e => e.cause?.map .outside
  | .search e => e.cause?.map .outside
  | .retrieval _ _ cause => some cause
  | _ => none

/-- Is it one of the failures that the library foresees, and a caller is told to expect? -/
def isForeseen : Failure → Bool
  | .file _ | .longMarker _ | .textlessOverride | .unencodable _ | .outside _ | .unbounded => false
  | _ => true

end Failure

end DirectoryAuth
