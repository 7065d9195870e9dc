import DirectoryAuth.Lookup

/-!
# Details of users

The name and the email address of a user, each empty where the entry has no such attribute.
-/

namespace DirectoryAuth

structure Details where
  name : String
  email : String
  deriving DecidableEq, Repr

namespace Details

variable {σ : Type}

def ofEntry (m : UserMapping) (entry : Entry) : Details where
  name := (entry.first? m.nameAttribute).getD ""
  email := (entry.first? m.emailAttribute).getD ""

/-- The attributes that details are made from. -/
def attributes (m : UserMapping) : List String := [m.nameAttribute, m.emailAttribute]

/-- The details of a login, from the first server that knows it. -/
def fetch (connectors : List Connector) (login : String) : Operation σ Details := do
  Operation.log .debug .users s!"Requesting details for user {login}"
  Lookup.lookUp connectors login (fun c => attributes c.server.users)
    fun c _ entry => pure (ofEntry c.server.users entry)

end Details

end DirectoryAuth
