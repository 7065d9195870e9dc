import DirectoryAuth.DistinguishedName
import DirectoryAuth.Lookup

/-!
# Groups of users

The direct groups of a member are those that list it and those that it lists. The groups of a user
are its direct groups and, where groups are nested, the groups of these, breadth first. Groups are
told apart by their names in lower case; each is met once, so cycles of groups come to an end.
-/

namespace DirectoryAuth.Groups

variable {σ : Type}

/-- What a group is called: its identifying attribute, else the first value in its name. -/
def idOf (m : GroupMapping) (group : Entry) : String :=
  match (group.first? m.idAttribute).filter (· ≠ "") with
  | some id => id
  | none => (DistinguishedName.firstValue? group.name).getD group.name

/-! ## Direct groups -/

/-- What a name in a request stands for, or the name itself where the member has no such
attribute. -/
def parameter (member : Entry) (name : String) : Except String String :=
  if GroupMapping.isMemberName name then .ok member.name
  else
    match member.first? name with
    | some value => .ok value
    | none => .error name

/-- What the names in a request stand for. -/
def parameters (names : List String) (member : Entry) : Operation σ (Option (List String)) := do
  match names.mapM (parameter member) with
  | .ok values => pure (some values)
  | .error name =>
    Operation.log .debug .groups
      s!"Entry {member.name} has no attribute {name}, skipping group search"
    pure none

/-- The groups that list a member. -/
def listing (c : Connector) (m : GroupMapping) (search : MemberSearch) (session : Session)
    (member : Entry) : Operation σ (List Entry) := do
  match ← parameters search.names member with
  | none => pure []
  | some values =>
    let request : SearchRequest :=
      ⟨search.base, search.request, values, m.groupAttributes, .subtree, c.server.limits⟩
    request.all session

/-- The group of a name. One that cannot be read is known by its name alone. -/
def named (m : GroupMapping) (session : Session) (name : String) : Operation σ Entry := do
  return (← SearchRequest.readEntry session name m.groupAttributes).getD ⟨name, .empty⟩

/-- The groups that a member lists. -/
def listedBy (m : GroupMapping) (session : Session) (member : Entry) :
    Operation σ (List Entry) :=
  match m.memberOf with
  | none => pure []
  | some name => (member.values name).mapM (named m session)

/-- The groups that a member belongs to directly. -/
def direct (c : Connector) (m : GroupMapping) (session : Session) (member : Entry) :
    Operation σ (List Entry) := do
  let listing ← match m.listing with
    | some search => listing c m search session member
    | none => pure []
  return listing ++ (← listedBy m session member)

/-! ## All groups -/

/-- How far the groups of a user are known. -/
structure Walk where
  /-- The keys of the user and of all groups that were met. -/
  seen : List String
  ids : List String
  /-- The members whose groups are still to be asked for. -/
  queue : List Entry

namespace Walk

/-- The walk before anything is known of a user. -/
def start (user : Entry) : Walk := ⟨[user.key], [], [user]⟩

/-- Notes a group, unless it was met before. -/
def meet (m : GroupMapping) (w : Walk) (group : Entry) : Walk :=
  if w.seen.contains group.key then w
  else
    let id := idOf m group
    { seen := w.seen ++ [group.key]
      ids := if w.ids.contains id then w.ids else w.ids ++ [id]
      queue := if m.nested then w.queue ++ [group] else w.queue }

/-- Asks for the groups of all members in the queue, of `limit` members at most. -/
def finish (m : GroupMapping) (direct : Entry → Operation σ (List Entry)) :
    (limit : Nat) → Walk → Operation σ (List String)
  | _, ⟨_, ids, []⟩ => pure ids
  | 0, ⟨_, _, _ :: _⟩ => throw .unbounded
  | limit + 1, ⟨seen, ids, member :: queue⟩ => do
    let groups ← direct member
    finish m direct limit (groups.foldl (meet m) ⟨seen, ids, queue⟩)

end Walk

/-- How many members one resolution may ask for: the user, the groups that the user lists, and
those that the network may name. -/
def limit (m : GroupMapping) (user : Entry) : Operation σ Nat := fun network world =>
  let listed := (m.memberOf.map user.values).getD []
  (.ok (network.bound world.network + listed.length + 1), world)

/-- The groups of a user, each once, in the order in which they were met. -/
def resolve (c : Connector) (m : GroupMapping) (session : Session) (user : Entry) :
    Operation σ (List String) := do
  Walk.finish m (direct c m session) (← limit m user) (.start user)

/-- The servers that know of groups. -/
def mapped (connectors : List Connector) : List Connector :=
  connectors.filter (·.server.groups.isSome)

/-- The groups of a login, from the first of the servers that knows it. -/
def fetch (connectors : List Connector) (login : String) : Operation σ (List String) := do
  Operation.log .debug .groups s!"Requesting groups for user {login}"
  if connectors.isEmpty then pure []
  else
    let groups ← Lookup.lookUp connectors login
      (fun c => (c.server.groups.map (·.memberAttributes)).getD [])
      fun c session entry =>
        match c.server.groups with
        | some m => resolve c m session entry
        | none => pure []
    Operation.log .debug .groups s!"Groups of {login}: {Text.quotedList groups}"
    pure groups

end DirectoryAuth.Groups
