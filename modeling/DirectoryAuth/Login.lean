import DirectoryAuth.Lookup

/-!
# Logins

A password is checked by binding as the user. The entry of the user is looked up first, in a
session of the service account that is closed before the user's is opened. Servers are tried in
order until one accepts the password; a blank password is not sent to any.
-/

namespace DirectoryAuth

/-- What came of trying a login with one server. -/
inductive LoginStatus where
  | success | noSuchUser | invalidCredentials | unreachable | tlsFailure | lookupFailed
  /-- An outcome that only a host application knows of. -/
  | other (name : String)
  deriving DecidableEq, Repr

namespace LoginStatus

def name : LoginStatus → String
  | success => "SUCCESS"
  | noSuchUser => "NO_SUCH_USER"
  | invalidCredentials => "INVALID_CREDENTIALS"
  | unreachable => "UNREACHABLE"
  | tlsFailure => "TLS_FAILURE"
  | lookupFailed => "LOOKUP_FAILED"
  | other name => name

/-- The status of a name. -/
def ofName (name : String) : LoginStatus :=
  ([success, noSuchUser, invalidCredentials, unreachable, tlsFailure, lookupFailed].find?
    (·.name == name)).getD (other name)

/-- Did the directory answer for the login? -/
def isDefinitive : LoginStatus → Bool
  | success | noSuchUser | invalidCredentials => true
  | unreachable | tlsFailure | lookupFailed | other _ => false

end LoginStatus

structure Attempt where
  server : String
  status : LoginStatus
  /-- What the directory called the reason of its refusal. -/
  reason : String
  deriving DecidableEq, Repr

/-- What came of a login over all servers that were tried. -/
structure Verdict where
  login : String
  attempts : List Attempt
  deriving DecidableEq, Repr

namespace Verdict

/-- The key of the server that accepted the password. -/
def server? (v : Verdict) : Option String :=
  (v.attempts.find? (·.status = .success)).map (·.server)

def isSuccess (v : Verdict) : Bool := v.attempts.any (·.status = .success)

/-- Did some server answer for the login? -/
def reachedDirectory (v : Verdict) : Bool := v.attempts.any (·.status.isDefinitive)

end Verdict

namespace Login

variable {σ : Type}

/-- The attempt that ended because no session could be had. -/
def unconnected (c : Connector) (login : String) (error : ConnectionError) :
    Operation σ Attempt := do
  if error.isTls then
    Operation.log .warning .login
      s!"StartTLS failed on {c.key} while authenticating {login}: {error.message}"
    pure ⟨c.key, .tlsFailure, ""⟩
  else
    Operation.log .warning .login
      s!"Unable to reach {c.key} while authenticating {login}: {error.message}"
    pure ⟨c.key, .unreachable, ""⟩

/-- The entry of a login, found in a session that is closed again. -/
def resolve (c : Connector) (login : String) : Operation σ (Option Entry) := do
  let session ← c.openService
  session.during (Lookup.findUser c session login [])

/-- Whom a user binds as: the login where the mechanism resolves it, else the name of the entry. -/
def account (c : Connector) (login : String) (entry : Entry) : String :=
  if c.server.mechanism.isSasl then login else entry.name

/-- Checks the password of an entry. -/
def checkPassword (c : Connector) (login : String) (password : Password) (entry : Entry) :
    Operation σ Attempt := do
  let opening : Operation σ Unit := do
    (← c.openUser (some (account c login entry)) (some password)).close
  match ← opening.attempt with
  | .ok () =>
    Operation.log .debug .login s!"User {login} authenticated in {c.key}"
    pure ⟨c.key, .success, ""⟩
  | .error (.credentials error) =>
    let reason := Diagnosis.describe (error.subcode?.map Int.ofNat)
    Operation.log .debug .login s!"Password rejected for {login} in {c.key} {reason}"
    pure ⟨c.key, .invalidCredentials, reason⟩
  | .error (.connection error) => unconnected c login error
  | .error failure => throw failure

/-- Checks a login and password with one server. -/
def check (c : Connector) (login : String) (password : Password) : Operation σ Attempt := do
  match ← (resolve c login).attempt with
  | .error (.connection error) => unconnected c login error
  | .error (.search error) =>
    Operation.log .warning .login s!"Unable to look up {login} in {c.key}: {error.message}"
    pure ⟨c.key, .lookupFailed, ""⟩
  | .error failure => throw failure
  | .ok none =>
    Operation.log .debug .login s!"User {login} not found in {c.key}"
    pure ⟨c.key, .noSuchUser, ""⟩
  | .ok (some entry) => checkPassword c login password entry

/-- The attempts with servers in order, up to the first success. -/
def attempts (login : String) (password : Password) :
    List Connector → Operation σ (List Attempt)
  | [] => pure []
  | c :: rest => do
    let attempt ← check c login password
    if attempt.status = .success then pure [attempt]
    else return attempt :: (← attempts login password rest)

/-- Checks a login and password over all servers. -/
def authenticate (connectors : List Connector) (login : String) (password : Password) :
    Operation σ Verdict := do
  if password = .blank then
    Operation.log .debug .login s!"Blank password rejected for {login}"
    pure ⟨login, []⟩
  else return ⟨login, ← attempts login password connectors⟩

end Login

end DirectoryAuth
