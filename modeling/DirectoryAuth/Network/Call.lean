import DirectoryAuth.Fault
import DirectoryAuth.Password
import DirectoryAuth.Scalar

/-!
# Calls to the outside world

The requests that the library sends to directories, the name service, the ticket service, the file
store and the terminal, and the type of the reply to each. What the library may rely on is in
these types and nowhere else: any call may fail instead of giving its reply.
-/

namespace DirectoryAuth

/-- How a server proves who it is. -/
structure TlsPolicy where
  verify : Bool
  authorityFile : Option String
  deriving DecidableEq, Repr

/-- One URL that connections may be opened to. -/
structure Endpoint where
  url : String
  tls : TlsPolicy
  connectTimeout : Decimal.Binary64
  deriving DecidableEq, Repr

/-- What a bind presents. -/
inductive Credentials where
  | anonymous
  | simple (account : String) (password : Option Password)
  | digest (realm account : Option String) (password : Option Password)
  | ticket (ticket : Option String)
  deriving DecidableEq, Repr

/-- What a connection is made with. -/
structure Terms where
  followReferrals : Bool
  readTimeout : Decimal.Binary64
  credentials : Credentials
  deriving DecidableEq, Repr

/-- A connection, told apart from all others by its number. -/
structure Connection where
  number : Nat
  address : String
  terms : Terms
  deriving DecidableEq, Repr

inductive Scope where
  | base | level | subtree
  deriving DecidableEq, Repr

/-- What a search asks for. No attributes means that only names are asked for. -/
structure Query where
  base : String
  filter : String
  scope : Scope
  attributes : Option (List String)
  sizeLimit : Int
  timeLimit : Int
  deriving DecidableEq, Repr

/-- An attribute value as it arrives: bytes, or a value that the client has already read. -/
inductive RawValue where
  | bytes (bytes : List UInt8)
  | plain (value : Scalar)
  deriving DecidableEq, Repr

/-- One item of an answer. Only items of kind `searchResEntry` are entries. -/
structure Item where
  kind : Option String
  name : Option String
  attributes : List (String × List RawValue)
  deriving DecidableEq, Repr

/-- What the directory reports about a request. A report without a code means success; a code that
is there but empty does not. A description may be missing, or be there and empty. -/
structure Report where
  code : Option (Option Int)
  description : Option (Option String)
  message : Option String
  deriving DecidableEq, Repr

structure UpgradeReply where
  started : Bool
  report : Option Report
  deriving DecidableEq, Repr

structure BindReply where
  accepted : Bool
  report : Option Report
  deriving DecidableEq, Repr

structure SearchReply where
  report : Option Report
  items : List Item
  deriving DecidableEq, Repr

/-- The items of a paged search, and the fault that ends them where they do not come to an end. The
report is the last one that came with a page. -/
structure PagedReply where
  report : Option Report
  items : List Item
  fault : Option Fault
  deriving DecidableEq, Repr

/-- One announcement of a server in the name service. -/
structure ServiceRecord where
  priority : Int
  weight : Int
  port : Int
  target : String
  deriving DecidableEq, Repr

inductive Call where
  | declareServer (endpoint : Endpoint)
  | declarePool (urls : List String)
  | connect (connection : Connection)
  | openSocket (connection : Connection)
  | startTls (connection : Connection)
  | bind (connection : Connection)
  | unbind (connection : Connection)
  | search (connection : Connection) (query : Query)
  | pagedSearch (connection : Connection) (query : Query) (pageSize : Int)
  | lookUpService (name : String)
  /-- Makes the ticket service ready for a principal. -/
  | prepareTicket (principal : String)
  | acquireTicket (principal password : String)
  | readFile (path : String)
  | writeFile (path text : String)
  | askPassword (prompt : String)
  deriving DecidableEq, Repr

/-- What a call is answered with when it does not fail. -/
@[reducible] def Call.Reply : Call → Type
  | .declareServer _ | .declarePool _ | .connect _ | .openSocket _ | .unbind _ => Unit
  | .startTls _ => UpgradeReply
  | .bind _ => BindReply
  | .search _ _ => SearchReply
  | .pagedSearch _ _ _ => PagedReply
  | .lookUpService _ => List ServiceRecord
  | .prepareTicket _ => Unit
  | .acquireTicket _ _ => String
  | .readFile _ => List UInt8
  | .writeFile _ _ => Unit
  | .askPassword _ => String

/-- The connection that a call is made on. -/
def Call.connection? : Call → Option Connection
  | .connect c | .openSocket c | .startTls c | .bind c | .unbind c | .search c _
  | .pagedSearch c _ _ => some c
  | _ => none

end DirectoryAuth
