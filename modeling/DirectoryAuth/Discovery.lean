import DirectoryAuth.Network.Operation
import DirectoryAuth.Text.Blank

/-!
# Discovery

A realm may announce its directory servers in the name service. They are tried by priority, the
lowest first, and among equals by weight, the highest first; records equal in both keep the order
of the answer. A target that is the root announces that there is no server.
-/

namespace DirectoryAuth.Discovery

/-- A text without dots at either end. -/
def withoutOuterDots (cs : List Char) : List Char :=
  ((cs.dropWhile (· == '.')).reverse.dropWhile (· == '.')).reverse

/-- The name under which a realm announces its servers. -/
def serviceName (realm : String) : String :=
  "_ldap._tcp." ++ String.ofList (withoutOuterDots (Text.trimChars realm.toList))

/-- May the first record stand in front of the second? -/
def precedes (a b : ServiceRecord) : Bool :=
  a.priority < b.priority || (a.priority == b.priority && b.weight ≤ a.weight)

/-- The targets that stand for the root. -/
def rootTargets : List String := ["", ".", "@"]

/-- The host of a target, without the dot that ends a complete name. The root is no host. -/
def host? (target : String) : Option String :=
  if rootTargets.contains target then none
  else if target.toList.getLast? == some '.' then some (String.ofList target.toList.dropLast)
  else some target

def url? (record : ServiceRecord) : Option String :=
  (host? record.target).map fun host => s!"ldap://{host}:{record.port}"

/-- The URLs of an answer, in the order in which they are to be tried. -/
def urls (records : List ServiceRecord) : List String :=
  (records.mergeSort precedes).filterMap url?

variable {σ : Type}

/-- The URLs that a realm announces. A name service that has no answer announces none. -/
def discover (realm : String) : Operation σ (List String) := do
  let name := serviceName realm
  match ← (Operation.perform (.lookUpService name)).attempt with
  | .ok records =>
    let found := urls records
    Operation.log .debug .discovery
      s!"Discovered LDAP servers for {realm}: {Text.quotedList found}"
    pure found
  | .error (.outside (.nameService message)) =>
    Operation.log .debug .discovery s!"No LDAP SRV records for {name}: {message}"
    pure []
  | .error failure => throw failure

end DirectoryAuth.Discovery
