import DirectoryAuth.Network.Operation
import DirectoryAuth.Server

/-!
# Connectors

A connector makes connections to one server. It exists only for a server whose mechanism the
directory client can use, once the client knows every endpoint of the server. It decides what a
connection presents to the directory, and gets a ticket where the mechanism needs one.
-/

namespace DirectoryAuth

structure Connector where
  server : Server
  deriving DecidableEq, Repr

/-- Who a connection is for: the service account, or a user who is to prove a password. -/
inductive Purpose where
  | service | user
  deriving DecidableEq, Repr

namespace Connector

open Text

variable {σ : Type}

def key (c : Connector) : String := c.server.key

def address (c : Connector) : String := c.server.address

/-- The name of a setting of the server. -/
def settingName (server : Server) (key : String) : String := server.root ++ "." ++ key

/-- Why no connection can use the mechanism of a server. -/
def mechanismError? (server : Server) : Option SettingError :=
  let name := settingName server "authentication"
  match server.mechanism with
  | .cramMd5 => some (.unsupportedMechanism server.mechanism.name name)
  | .unknown mechanism => some (.unknownMechanism mechanism name)
  | .simple | .digestMd5 | .gssapi => none

/-- The endpoint of one of the URLs of a server. -/
def endpoint (server : Server) (url : String) : Endpoint :=
  ⟨url, server.tlsPolicy, server.connectTimeout⟩

/-- Makes the endpoints of a server known to the directory client; several of them form a pool. -/
def declare (server : Server) : Operation σ Unit := do
  server.urls.forM fun url => Operation.perform (.declareServer (endpoint server url))
  if server.urls.length ≠ 1 then Operation.perform (.declarePool server.urls)

def ofServer (server : Server) : Operation σ Connector := do
  match mechanismError? server with
  | some error => throw (.setting error)
  | none =>
    declare server
    pure ⟨server⟩

/-- The connector in a message. -/
def shown (c : Connector) : String :=
  s!"ContextFactory(url={quoted c.address}, " ++
    s!"authentication={quoted c.server.mechanism.name}, " ++
    s!"bindDn={quotedOption c.server.bindName}, realm={quotedOption c.server.realm})"

/-! ## Tickets -/

/-- The principal of an account: within the realm of the server, unless it names a realm. -/
def principalOf (c : Connector) (account : String) : String :=
  match c.server.realm with
  | some realm => if account.toList.contains '@' then account else s!"{account}@{upper realm}"
  | none => account

/-- The code with which the ticket service says that it reaches no issuer. -/
def issuerUnreachable : Int := -1765328228

/-- How many different codes there are: as many as words of 32 bits. -/
def codeCount : Int := 0x100000000

/-- Codes are compared as words of 32 bits. -/
def sameCode (a b : Int) : Bool := a % codeCount == b % codeCount

/-- The failure for a fault of the ticket service. -/
def ticketFailure (principal : String) : Fault → Failure
  | .missingPackage name => .setting (.noTicketService (.missingPackage name))
  | .ticket message code =>
    let fault := Fault.ticket message code
    if code.any (sameCode · issuerUnreachable) then .connection (.noTicketIssuer principal fault)
    else .credentials (.ticketRefused principal fault)
  | fault => .outside fault

/-- Asks the ticket service about a principal. -/
def askTickets (principal : String) (call : Call) : Operation σ call.Reply := do
  match ← (Operation.perform call).attempt with
  | .ok reply => pure reply
  | .error (.outside fault) => throw (ticketFailure principal fault)
  | .error failure => throw failure

/-- The text that a password is sent as. -/
def sentText (password : Password) : Operation σ String :=
  match password.text? with
  | some text => pure text
  | none => throw (.unencodable password)

theorem sentText_ofText (text : String) :
    (sentText (.ofText text) : Operation σ String) = pure text := by
  simp only [sentText, Password.text?_ofText]

/-- A new ticket for a principal. It proves the password, since no stored ticket is used. -/
def acquireTicket (principal : String) (password : Option Password) : Operation σ String := do
  match password.filter (· ≠ .blank) with
  | none => throw (.credentials (.noPassword principal))
  | some password =>
    askTickets principal (.prepareTicket principal)
    let text ← sentText password
    askTickets principal (.acquireTicket principal text)

/-- A ticket for an account. That the account is refused is for a user to know; of the service
account it means that the server cannot be used. -/
def ticketFor (c : Connector) (purpose : Purpose) (account : String)
    (password : Option Password) : Operation σ String := do
  match purpose, ← (acquireTicket (c.principalOf account) password).attempt with
  | .service, .error (.credentials cause) =>
    throw (.connection (.serviceTicket account c.address cause))
  | _, outcome => Operation.ofOutcome outcome

/-- The ticket for a connection, where the mechanism needs one. -/
def ticket? (c : Connector) (purpose : Purpose) (account : Option String)
    (password : Option Password) : Operation σ (Option String) := do
  if c.server.mechanism = .gssapi then
    match account.filter (· ≠ ""), purpose with
    | some account, _ => return some (← c.ticketFor purpose account password)
    | none, .user => throw (.credentials .noPrincipal)
    | none, .service => pure none
  else pure none

/-! ## Terms -/

/-- What a connection presents for an account. -/
def credentials (c : Connector) (account : Option String) (password : Option Password)
    (ticket : Option String) : Credentials :=
  match c.server.mechanism with
  | .digestMd5 => .digest c.server.realm account password
  | .gssapi => .ticket ticket
  | .simple | .cramMd5 | .unknown _ =>
    match account.filter (· ≠ "") with
    | some account => .simple account password
    | none => .anonymous

/-- The terms of a connection for an account. Nothing secret is logged. -/
def terms (c : Connector) (account : Option String) (password : Option Password)
    (ticket : Option String) : Operation σ Terms := do
  let principal := account.getD "None"
  let realm := c.server.realm.getD "None"
  Operation.log .debug .connection
    (s!"Initializing LDAP context url={c.address} " ++
      s!"authentication={c.server.mechanism.name} principal={principal} " ++
      s!"realm={realm} startTLS={shownBool c.server.startTls}")
  pure ⟨c.server.followReferrals, c.server.readTimeout, c.credentials account password ticket⟩

end Connector

end DirectoryAuth
