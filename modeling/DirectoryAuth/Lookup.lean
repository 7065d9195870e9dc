import DirectoryAuth.Search

/-!
# Looking up users

A login is looked for in every server in turn, with a session of the service account of its own.
The first server that knows the login answers for it: a failure there is not covered up by a later
server. A server that cannot be reached or searched is passed over; when no server knows the
login, the last such failure is the answer.
-/

namespace DirectoryAuth.Lookup

variable {σ α : Type}

/-- The request that finds the entry of a login. -/
def request (c : Connector) (login : String) (attributes : List String) : SearchRequest :=
  let users := c.server.users
  ⟨users.base, users.request, [login], attributes, .subtree, c.server.limits⟩

/-- The entry of a login, none when the server does not know it. -/
def findUser (c : Connector) (session : Session) (login : String) (attributes : List String) :
    Operation σ (Option Entry) :=
  (request c login attributes).unique session

/-- What one server says about a login. -/
inductive Answer (α : Type) where
  | found (value : α)
  | absent
  | failed (failure : Failure)

/-- The failure of what is done with an entry that was found. -/
def retrievalFailure (c : Connector) (login : String) (failure : Failure) :
    Operation σ Failure := do
  match failure with
  | .connection _ | .search _ =>
    Operation.log .warning .users
      s!"Unable to retrieve details for user {login} in {c.key}: {failure.message}"
    pure (.retrieval login c.key failure)
  | _ => pure failure

/-- Logs that a server is passed over. -/
def logFailed (c : Connector) (login : String) (failure : Failure) : Operation σ Unit :=
  Operation.log .debug .users s!"Lookup of user {login} failed in {c.key}: {failure.message}"

/-- Looks for a login within a session, and acts on its entry. -/
def within (c : Connector) (session : Session) (login : String) (attributes : List String)
    (action : Session → Entry → Operation σ α) : Operation σ (Answer α) := do
  match ← (findUser c session login attributes).attempt with
  | .error (.search error) =>
    logFailed c login (.search error)
    pure (.failed (.search error))
  | .error failure => throw failure
  | .ok none =>
    Operation.log .debug .users s!"User {login} not found in {c.key}"
    pure .absent
  | .ok (some entry) =>
    match ← (action session entry).attempt with
    | .ok value => pure (.found value)
    | .error failure => throw (← retrievalFailure c login failure)

/-- What a server says about a login, in a session of its own. -/
def ask (c : Connector) (login : String) (attributes : List String)
    (action : Session → Entry → Operation σ α) : Operation σ (Answer α) := do
  match ← c.openService.attempt with
  | .error (.connection error) =>
    logFailed c login (.connection error)
    pure (.failed (.connection error))
  | .error failure => throw failure
  | .ok session => session.during (within c session login attributes action)

/-- The failure when no server knows a login: the last one that a server had, if there was any. -/
def unknown (login : String) : Option (String × Failure) → Failure
  | some (server, cause) => .retrieval login server cause
  | none => .notFound login

/-- Asks servers in order; `failed` is the last failure so far. -/
def lookUpFrom (login : String) (attributes : Connector → List String)
    (action : Connector → Session → Entry → Operation σ α) (failed : Option (String × Failure)) :
    List Connector → Operation σ α
  | [] => throw (unknown login failed)
  | c :: rest => do
    match ← ask c login (attributes c) (action c) with
    | .found value => pure value
    | .absent => lookUpFrom login attributes action failed rest
    | .failed failure => lookUpFrom login attributes action (some (c.key, failure)) rest

/-- Acts on the entry of a login on the first server that knows it. -/
def lookUp (connectors : List Connector) (login : String) (attributes : Connector → List String)
    (action : Connector → Session → Entry → Operation σ α) : Operation σ α :=
  lookUpFrom login attributes action none connectors

end DirectoryAuth.Lookup
