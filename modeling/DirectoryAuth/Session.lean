import DirectoryAuth.Connector
import DirectoryAuth.Diagnosis

/-!
# Sessions

A session is a connection that was opened, upgraded where the server asks for it, and bound. It is
closed exactly once, whoever closes it first. That closing fails is only logged.
-/

namespace DirectoryAuth

structure Session where
  connection : Connection
  /-- The key of the server that the session is with. -/
  server : String
  deriving DecidableEq, Repr

namespace Session

variable {σ α : Type}

def isClosed (s : Session) : Operation σ Bool :=
  fun _ world => (.ok (world.closed.contains s.connection.number), world)

/-- Notes that a session is closed. -/
def markClosed (s : Session) : Operation σ Unit :=
  fun _ world => (.ok (), { world with closed := s.connection.number :: world.closed })

/-- Gives up the connection of a session. -/
def release (s : Session) : Operation σ Unit := do
  match ← (Operation.perform (.unbind s.connection)).attempt with
  | .ok () => pure ()
  | .error (.outside fault) =>
    if fault.isDirectory || fault.isSystem then
      Operation.log .debug .connection
        s!"Error while closing LDAP context on {s.server}: {fault.message}"
    else throw (.outside fault)
  | .error failure => throw failure

/-- Closes a session that is not closed yet. -/
def close (s : Session) : Operation σ Unit := do
  if ← s.isClosed then pure ()
  else
    s.markClosed
    s.release

/-- Does something with a session and closes it, however that ended. -/
def during (s : Session) (body : Operation σ α) : Operation σ α := body.andFinally s.close

end Session

namespace Connector

variable {σ : Type}

/-- The number of the next connection. -/
def nextNumber : Operation σ Nat :=
  fun _ world => (.ok world.connections, { world with connections := world.connections + 1 })

/-- Makes a connection on terms. Nothing is sent on it yet. -/
def connect (c : Connector) (terms : Terms) : Operation σ Session := do
  let connection : Connection := ⟨← nextNumber, c.address, terms⟩
  Operation.perform (.connect connection)
  pure ⟨connection, c.key⟩

/-- What a report says about an upgrade that was refused. -/
def upgradeDescription (report : Option Report) : String :=
  match report.bind (·.description) with
  | none => "unknown error"
  | some description => description.getD "None"

/-- Opens the connection of a session, and upgrades it where the server is configured so. -/
def openSocket (c : Connector) (s : Session) : Operation σ Unit := do
  (Operation.perform (.openSocket s.connection)).translating
    fun fault => .connection (.notOpened c.address fault)
  if c.server.startTls then
    let reply ← (Operation.perform (.startTls s.connection)).translating
      fun fault => .connection (.tlsFailed c.address fault)
    if !reply.started then
      throw (.connection (.tlsRefused c.address (upgradeDescription reply.report)))

/-- What a report says about a bind that was refused. -/
def bindDescription (report : Option Report) : String :=
  (((report.bind (·.description)).join).filter (· ≠ "")).getD "unknown error"

/-- The failure of a bind that the directory refused. Of a user it is the credentials that were
refused, of the service account it is the connection. -/
def bindFailure (c : Connector) (purpose : Purpose) (account : Option String)
    (report : Option Report) : Failure :=
  let description := bindDescription report
  match purpose with
  | .user =>
    let message := (report.bind (·.message)).getD ""
    .credentials (.bindRefused (account.getD "None") description (Diagnosis.subcode? message))
  | .service =>
    let name := (account.filter (· ≠ "")).getD "anonymous"
    .connection (.bindRefused name c.address description)

/-- Binds the connection of a session. -/
def bindAs (c : Connector) (purpose : Purpose) (account : Option String) (s : Session) :
    Operation σ Unit := do
  let reply ← (Operation.perform (.bind s.connection)).translating
    fun fault => .connection (.notBound c.address fault)
  if !reply.accepted then throw (c.bindFailure purpose account reply.report)

/-- Opens a session for an account. A session that cannot be used is closed. -/
def openSession (c : Connector) (purpose : Purpose) (account : Option String)
    (password : Option Password) : Operation σ Session := do
  let ticket ← c.ticket? purpose account password
  let terms ← c.terms account password ticket
  let session ← c.connect terms
  let establish : Operation σ Unit := do
    c.openSocket session
    c.bindAs purpose account session
  match ← establish.attempt with
  | .ok () => pure session
  | .error failure =>
    session.close
    throw failure

/-- Opens a session of the service account, or an anonymous one where none is configured. -/
def openService (c : Connector) : Operation σ Session :=
  c.openSession .service c.server.bindName (c.server.bindPassword.map .ofText)

/-- Opens a session of a user. -/
def openUser (c : Connector) (account : Option String) (password : Option Password) :
    Operation σ Session :=
  c.openSession .user account password

/-- Opens a session of the service account and closes it at once. -/
def test (c : Connector) : Operation σ Unit := do
  if c.server.mechanism.isSasl && c.server.bindName.isNone then
    throw (.setting (.noBindName (settingName c.server "bindDn")))
  let opening : Operation σ Unit := do (← c.openService).close
  match ← opening.attempt with
  | .ok () => Operation.log .info .connection s!"Test LDAP connection on {c.address}: OK"
  | .error failure =>
    if let .connection _ := failure then
      Operation.log .info .connection s!"Test LDAP connection on {c.address}: FAIL"
    throw failure

end Connector

end DirectoryAuth
