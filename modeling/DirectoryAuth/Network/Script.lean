import DirectoryAuth.Network.Operation
import DirectoryAuth.Network.Store

/-!
# A network that answers from a script

For rehearsing a configuration: directories with accounts and prepared answers to searches, a name
service with prepared records, a ticket service with passwords, a store of files, and a password
that is typed when asked for. A script decides every answer, and no call but the writing of a file
changes it.
-/

namespace DirectoryAuth

namespace Script

/-- A prepared answer to searches. A part that is missing matches anything. -/
structure Rule where
  base : Option String
  filter : Option String
  scope : Option Scope
  fault : Option Fault
  /-- The number of items in front of the fault, when the answer is paged. -/
  faultAfter : Nat
  report : Option Report
  items : List Item

/-- The report of a request that succeeded. -/
def successReport : Report := ⟨some (some 0), some (some "success"), some ""⟩

/-- The report of a bind whose credentials are wrong. -/
def credentialsReport : Report := ⟨some (some 49), some (some "invalidCredentials"), some ""⟩

/-- The rule of a directory without rules: every search succeeds and finds nothing. -/
def Rule.empty : Rule := ⟨none, none, none, none, 0, some successReport, []⟩

structure Directory where
  construction : Option Fault
  opening : Option Fault
  /-- Whether an upgrade succeeds. -/
  upgrade : Except Fault Bool
  upgradeReport : Option Report
  /-- Faults of binds, by principal. -/
  bindFaults : List (String × Fault)
  /-- Reports on binds that are refused, by principal. -/
  bindReports : List (String × Option Report)
  /-- May connections be bound anonymously? -/
  anonymous : Bool
  refusedTickets : List String
  accounts : List (String × String)
  rules : List Rule
  otherwise : Rule
  closing : Option Fault

/-- A directory that knows nobody, and refuses nothing but passwords. -/
def Directory.empty : Directory where
  construction := none
  opening := none
  upgrade := .ok true
  upgradeReport := none
  bindFaults := []
  bindReports := []
  anonymous := true
  refusedTickets := []
  accounts := []
  rules := []
  otherwise := .empty
  closing := none

/-- A ticket service, which may refuse a principal with a message and a code. -/
structure TicketService where
  passwords : List (String × String)
  refusals : List (String × String × Option Int)

end Script

structure Script where
  directories : List (String × Script.Directory)
  /-- Answers of the name service; a name without one has none. -/
  announcements : List (String × Except Fault (List ServiceRecord))
  tickets : Option Script.TicketService
  files : Store
  typed : String

namespace Script

def empty : Script := ⟨[], [], none, .empty, ""⟩

/-! ## Directories -/

def directory? (s : Script) (address : String) : Option Directory := s.directories.lookup address

/-- The directory at an address, which is empty where none was scripted. -/
def directory (s : Script) (address : String) : Directory := (s.directory? address).getD .empty

/-- A reply, or the fault there is instead. -/
def replying {α : Type} (fault : Option Fault) (reply : α) : Except Fault α :=
  match fault with
  | some fault => .error fault
  | none => .ok reply

/-- Opens a connection to an address. -/
def opened (s : Script) (address : String) : Except Fault Unit :=
  match s.directory? address with
  | none => .error (.directory s!"no directory at {address}")
  | some d => replying d.opening ()

/-- Who binds with credentials, and with which password. -/
def Directory.principal : Credentials → Option String × Option Password
  | .anonymous | .ticket none => (some "", none)
  | .simple account password => (some account, password)
  | .digest _ account password => (account, password)
  | .ticket (some ticket) => (some ticket, none)

/-- Are credentials accepted? -/
def Directory.accepts (d : Directory) (credentials : Credentials) : Bool :=
  let (principal, password) := principal credentials
  if principal = some "" then d.anonymous
  else
    let ticketAccepted := match credentials with
      | .ticket (some ticket) => !d.refusedTickets.contains ticket
      | _ => false
    let account := principal.bind (d.accounts.lookup ·)
    ticketAccepted || (account.isSome && account.map Password.ofText == password)

/-- The answer to a bind. -/
def Directory.bound (d : Directory) (credentials : Credentials) : Except Fault BindReply :=
  let (principal, _) := principal credentials
  match principal.bind (d.bindFaults.lookup ·) with
  | some fault => .error fault
  | none =>
    if d.accepts credentials then .ok ⟨true, some successReport⟩
    else .ok ⟨false, (principal.bind (d.bindReports.lookup ·)).getD (some credentialsReport)⟩

/-- The rule that answers a query: the first that matches. -/
def Directory.rule (d : Directory) (q : Query) : Rule :=
  (d.rules.find? fun rule =>
    rule.base.all (· == q.base) && rule.filter.all (· == q.filter) &&
      rule.scope.all (· == q.scope)).getD d.otherwise

/-- The answer to a search. -/
def Rule.whole (r : Rule) : Except Fault SearchReply := replying r.fault ⟨r.report, r.items⟩

/-- The answer to a paged search. A fault counts only where the items get as far. -/
def Rule.paged (r : Rule) : PagedReply :=
  if r.fault.isSome && r.faultAfter ≤ r.items.length then
    ⟨r.report, r.items.take r.faultAfter, r.fault⟩
  else ⟨r.report, r.items, none⟩

/-! ## Other services -/

/-- What the name service says about a name. -/
def announced (s : Script) (name : String) : Except Fault (List ServiceRecord) :=
  (s.announcements.lookup name).getD (.error (.nameService "scripted"))

/-- The code with which the ticket service refuses a password. -/
def wrongPassword : Int := -1765328360

/-- The answer of a ticket service. -/
def TicketService.issue (t : TicketService) (principal password : String) :
    Except Fault String :=
  match t.refusals.lookup principal with
  | some (message, code) => .error (.ticket message code)
  | none =>
    if t.passwords.lookup principal = some password then .ok s!"ticket:{principal}"
    else .error (.ticket "Preauthentication failed" (some wrongPassword))

/-- A ticket service can be made ready, if there is one. -/
def ready (s : Script) : Except Fault Unit :=
  match s.tickets with
  | none => .error (.missingPackage "gssapi")
  | some _ => .ok ()

/-- The answer of the ticket service, if there is one. -/
def issued (s : Script) (principal password : String) : Except Fault String :=
  match s.tickets with
  | none => .error (.missingPackage "gssapi")
  | some service => service.issue principal password

/-- Writes a file, over the one that is there. -/
def written (s : Script) (path text : String) : Except Fault Unit × Script :=
  match s.files.write path text.toUTF8.toList with
  | .ok files => (.ok (), { s with files := files })
  | .error fault => (.error fault, s)

/-! ## The network -/

/-- The answer to a call, and the script after it. -/
def answer : (call : Call) → Script → Except Fault call.Reply × Script
  | .declareServer endpoint, s => (replying (s.directory endpoint.url).construction (), s)
  | .declarePool _, s => (.ok (), s)
  | .connect _, s => (.ok (), s)
  | .openSocket c, s => (s.opened c.address, s)
  | .startTls c, s =>
    let d := s.directory c.address
    (d.upgrade.map (⟨·, d.upgradeReport⟩), s)
  | .bind c, s => ((s.directory c.address).bound c.terms.credentials, s)
  | .unbind c, s => (replying (s.directory c.address).closing (), s)
  | .search c q, s => (((s.directory c.address).rule q).whole, s)
  | .pagedSearch c q _, s => (.ok ((s.directory c.address).rule q).paged, s)
  | .lookUpService name, s => (s.announced name, s)
  | .prepareTicket _, s => (s.ready, s)
  | .acquireTicket principal password, s => (s.issued principal password, s)
  | .readFile path, s => (s.files.read path, s)
  | .writeFile path text, s => s.written path text
  | .askPassword _, s => (.ok s.typed, s)

def total (sizes : List Nat) : Nat := sizes.foldl (· + ·) 0

/-- How many names a rule may answer with. -/
def Rule.size (r : Rule) : Nat :=
  total (r.items.map fun item => 1 + total (item.attributes.map (·.2.length)))

/-- How many names the answers of a script may hold. -/
def size (s : Script) : Nat :=
  total (s.directories.map fun (_, d) => d.otherwise.size + total (d.rules.map Rule.size))

/-- The network of scripts. -/
def network : Network Script := ⟨answer, size⟩

end Script

end DirectoryAuth
