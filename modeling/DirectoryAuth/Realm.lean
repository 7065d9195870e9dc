import DirectoryAuth.Details
import DirectoryAuth.Groups
import DirectoryAuth.Login
import DirectoryAuth.Server.Assembly

/-!
# Realms

A realm is what a host application authenticates against. It is of use once it was set up: its
servers assembled and each tested with a session. Setting it up always gives a realm back, with an
outcome that says how it went.
-/

namespace DirectoryAuth

inductive RealmState where
  | uninitialized | initializing | ready | failed
  deriving DecidableEq, Repr

def RealmState.name : RealmState → String
  | .uninitialized => "UNINITIALIZED"
  | .initializing => "INITIALIZING"
  | .ready => "READY"
  | .failed => "FAILED"

structure Realm where
  roster : Roster
  state : RealmState
  /-- The servers of the latest setting up that succeeded. -/
  connectors : List Connector
  /-- The servers that know of groups, from the latest setting up that succeeded with some. -/
  groups : Option (List Connector)

namespace Realm

variable {σ : Type}

/-- The name by which a realm is known to its host. -/
def name : String := "LDAP"

def ofSettings (settings : Settings) : Realm :=
  ⟨.ofSettings settings, .uninitialized, [], none⟩

/-- Connectors to servers, in order. -/
def connectAll (servers : List Server) : Operation σ (List Connector) :=
  servers.mapM Connector.ofServer

/-- Connectors to servers that were tested, in order. -/
def testAll (servers : List Server) : Operation σ (List Connector) := do
  let connectors ← connectAll servers
  connectors.forM Connector.test
  pure connectors

/-- The realm whose setting up failed. A failure that nobody foresees leaves it unfinished. -/
def afterFailure (r : Realm) (failure : Failure) : Operation σ Realm := do
  if failure.isForeseen then
    Operation.log .error .realm s!"{name} realm initialization failed: {failure.message}"
    pure { r with state := .failed }
  else pure r

/-- The realm whose servers were tested. -/
def afterSuccess (r : Realm) (connectors : List Connector) : Operation σ Realm := do
  let mapped := Groups.mapped connectors
  Operation.log .info .realm s!"{name} realm ready with {connectors.length} server(s)"
  pure { r with
    state := .ready
    connectors := connectors
    groups := if mapped.isEmpty then r.groups else some mapped }

/-- Sets a realm up. -/
def setUp (r : Realm) : Operation σ (Realm × Except Failure Unit) := do
  let r := { r with state := .initializing }
  match ← (r.roster.servers).attempt with
  | .error failure => return (← r.afterFailure failure, .error failure)
  | .ok servers =>
    let r := { r with roster := r.roster.keeping servers }
    match ← (testAll servers).attempt with
    | .error failure => return (← r.afterFailure failure, .error failure)
    | .ok connectors => return (← r.afterSuccess connectors, .ok ())

/-- Fails unless the realm is ready. -/
def checkReady (r : Realm) : Operation σ Unit :=
  if r.state = .ready then pure () else throw (.notReady r.state.name)

/-- What came of a login over all servers. -/
def verdict (r : Realm) (login : String) (password : Password) : Operation σ Verdict := do
  r.checkReady
  Login.authenticate r.connectors login password

/-- Is the password right? Without an answer from any server that was tried there is none. -/
def authenticate (r : Realm) (login : String) (password : Password) : Operation σ Bool := do
  let verdict ← r.verdict login password
  if verdict.isSuccess then pure true
  else if !verdict.attempts.isEmpty && !verdict.reachedDirectory then
    throw (.connection (.noAnswer login))
  else pure false

def fetchDetails (r : Realm) (login : String) : Operation σ Details := do
  r.checkReady
  Details.fetch r.connectors login

/-- The groups of a user. Where no server knows of groups there are none. -/
def fetchGroups (r : Realm) (login : String) : Operation σ (List String) := do
  r.checkReady
  match r.groups with
  | none => pure []
  | some connectors => Groups.fetch connectors login

end Realm

end DirectoryAuth
