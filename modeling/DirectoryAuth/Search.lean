import DirectoryAuth.Entry
import DirectoryAuth.Filter
import DirectoryAuth.Session

/-!
# Searches

A search gives its entries one by one. Nothing is sent before the first one is asked for. An answer
comes whole, or page by page where the limits name a page size; both are read through a cursor.
Once its session is closed, a cursor gives no more entries and fails while there is something left
to read. A cursor that came to its end or failed is not used again.
-/

namespace DirectoryAuth

/-- What to search for. -/
structure SearchRequest where
  base : String
  /-- A filter template with numbered markers. -/
  template : String
  parameters : List String
  attributes : List String
  scope : Scope
  limits : Limits

/-- How far a search has come. -/
inductive Progress where
  /-- Nothing was sent yet. -/
  | idle
  /-- These items of a whole answer are unread. -/
  | reading (items : List Item)
  /-- These items of a paged answer are unread, the first at `position`, and `fault` ends them. -/
  | paging (search position : Nat) (items : List Item) (fault : Option Fault)
  deriving DecidableEq, Repr

structure Cursor where
  session : Session
  query : Query
  pageSize : Int
  progress : Progress
  deriving DecidableEq, Repr

namespace SearchRequest

variable {σ : Type}

/-- What the request asks of the directory. -/
def query (r : SearchRequest) (filter : String) : Query where
  base := r.base
  filter := filter
  scope := r.scope
  attributes := if r.attributes.isEmpty then none else some r.attributes
  sizeLimit := r.limits.size
  timeLimit := r.limits.time

/-- The filter of a request. -/
def filter (r : SearchRequest) : Except Failure String := Filter.format r.template r.parameters

/-- A cursor for a request. Only the filter can be at fault here. -/
def start (r : SearchRequest) (session : Session) : Operation σ Cursor := do
  let filter ← Operation.ofOutcome r.filter
  let query := r.query filter
  let names := (query.attributes.map Text.quotedList).getD "None"
  Operation.log .debug .search s!"Search base={r.base} filter={filter} attributes={names}"
  pure ⟨session, query, r.limits.page, .idle⟩

end SearchRequest

/-! ## Results -/

namespace Query

/-- Codes of results. -/
def success : Int := 0

def sizeLimitExceeded : Int := 4

def noSuchObject : Int := 32

/-- The codes that say that a base may not be read: too few rights, or a referral. -/
def unreadableCodes : List Int := [50, 10]

/-- The code of a report. A report without a code is one of success. -/
def codeOf (report : Option Report) : Option Int :=
  match report.bind (·.code) with
  | none => some success
  | some code => code

/-- The description of a report. -/
def descriptionOf (report : Option Report) : String :=
  (report.bind (·.description)).join.getD "None"

/-- Why a result cannot be used, if so. -/
def refusal? (q : Query) (report : Option Report) : Option SearchError :=
  let code := codeOf report
  if code = some noSuchObject then some (.noSuchBase q.base)
  else if code.any unreadableCodes.contains then
    some (.unreadable q.base (descriptionOf report))
  else if code = some success || code = some sizeLimitExceeded then none
  else some (.refused q.base q.filter (descriptionOf report))

end Query

/-! ## Connections -/

namespace Session

variable {σ : Type}

/-- The report of the latest search on the connection of a session, whoever made it. -/
def latestReport (s : Session) : Operation σ (Option Report) :=
  fun _ world => (.ok (world.latest s.connection.number).report, world)

/-- The items of the latest search on the connection of a session. -/
def latestItems (s : Session) : Operation σ (List Item) :=
  fun _ world => (.ok (world.latest s.connection.number).items, world)

end Session

/-! ## Cursors -/

namespace Cursor

variable {σ : Type}

/-- Fails when the session is closed. -/
def checkOpen (c : Cursor) : Operation σ Unit := do
  if ← c.session.isClosed then throw (.search (.closed c.session.server c.query.base))

/-- Sends the query. What it comes to is left with the connection. -/
def send (c : Cursor) : Operation σ Unit := do
  let _ ← (Operation.perform (.search c.session.connection c.query)).translating
    fun fault => .search (.failed c.query.base c.query.filter fault)

/-- The items of a whole answer. They are taken from the connection before anything else can be
searched for on it. -/
def askWhole (c : Cursor) : Operation σ Progress := do
  c.send
  let report ← c.session.latestReport
  match c.query.refusal? report with
  | some error => throw (.search error)
  | none =>
    if Query.codeOf report = some Query.sizeLimitExceeded then
      Operation.log .warning .search
        s!"Size limit exceeded searching {c.query.base} with filter {c.query.filter}"
    return .reading (← c.session.latestItems)

/-- The number of the next paged search. -/
def nextPagedSearch : Operation σ Nat :=
  fun _ world => (.ok world.pagedSearches, { world with pagedSearches := world.pagedSearches + 1 })

/-- The items of a paged answer. -/
def askPaged (c : Cursor) : Operation σ Progress := do
  let reply ← Operation.perform (.pagedSearch c.session.connection c.query c.pageSize)
  pure (.paging (← nextPagedSearch) 0 reply.items reply.fault)

/-- The cursor once its request was sent. -/
def started (c : Cursor) : Operation σ Cursor := do
  match c.progress with
  | .idle =>
    c.checkOpen
    return { c with progress := ← if c.pageSize = 0 then c.askWhole else c.askPaged }
  | .reading _ | .paging _ _ _ _ => pure c

/-- The next entry of a whole answer, and the items behind it. -/
def nextRead (c : Cursor) : List Item → Operation σ (Option (Entry × List Item))
  | [] => pure none
  | item :: items => do
    c.checkOpen
    if item.isEntry then pure (some (item.entry, items)) else c.nextRead items

/-- The failure that a fault within a paged answer becomes. -/
def pageFailure (c : Cursor) (fault : Fault) : Failure :=
  if fault.isDirectory then .search (.pageFailed c.query.base c.query.filter fault)
  else .outside fault

/-- The next entry of a paged answer with its position, and the items behind it. -/
def nextPaged (c : Cursor) (search : Nat) (fault : Option Fault) :
    (position : Nat) → List Item → Operation σ (Option (Entry × Nat × List Item))
  | position, item :: items => do
    Operation.record (.page search (.item position))
    c.checkOpen
    if item.isEntry then pure (some (item.entry, position + 1, items))
    else c.nextPaged search fault (position + 1) items
  | _, [] =>
    match fault with
    | some fault => do
      Operation.record (.page search .fault)
      throw (c.pageFailure fault)
    | none => do
      Operation.record (.page search .finished)
      pure none

/-- Gives up a paged answer. -/
def closePages (search : Nat) : Operation σ Unit := Operation.record (.page search .closed)

/-- The next entry and the cursor behind it; none at the end. -/
def next (c : Cursor) : Operation σ (Option (Entry × Cursor)) := do
  let c ← c.started
  match c.progress with
  | .idle => pure none
  | .reading items =>
    return (← c.nextRead items).map fun (entry, rest) => (entry, { c with progress := .reading rest })
  | .paging search position items fault =>
    match ← (c.nextPaged search fault position items).attempt with
    | .ok (some (entry, position, rest)) =>
      pure (some (entry, { c with progress := .paging search position rest fault }))
    | .ok none =>
      closePages search
      pure none
    | .error failure =>
      closePages search
      throw failure

/-- Gives up a cursor before its end. -/
def stop (c : Cursor) : Operation σ Unit :=
  match c.progress with
  | .paging search _ _ _ => closePages search
  | .idle | .reading _ => pure ()

/-- How many items are known to be unread. -/
def unread (c : Cursor) : Nat :=
  match c.progress with
  | .idle => 0
  | .reading items | .paging _ _ items _ => items.length

/-- The entries up to the end, at most `limit` of them. -/
def collect : (limit : Nat) → Cursor → Operation σ (List Entry)
  | 0, _ => pure []
  | limit + 1, c => do
    match ← c.next with
    | none => pure []
    | some (entry, rest) => return entry :: (← collect limit rest)

/-- All entries that are left. Each takes an item, so that the unread items are a limit. -/
def drain (c : Cursor) : Operation σ (List Entry) := do
  let c ← c.started
  collect (c.unread + 1) c

end Cursor

/-! ## Whole searches -/

namespace SearchRequest

variable {σ : Type}

/-- All entries that a request finds. -/
def all (r : SearchRequest) (session : Session) : Operation σ (List Entry) := do
  (← r.start session).drain

/-- The one entry that a request finds, or none. A second entry is a failure. -/
def unique (r : SearchRequest) (session : Session) : Operation σ (Option Entry) := do
  match ← (← r.start session).next with
  | none => pure none
  | some (entry, rest) =>
    match ← rest.next with
    | none => pure (some entry)
    | some (_, rest) =>
      rest.stop
      match r.filter with
      | .ok filter => throw (.search (.ambiguous filter r.base))
      | .error failure => throw failure

/-- The filter that every entry meets. -/
def anyEntry : String := "(objectClass=*)"

/-- The request that reads one entry by its name. -/
def ofName (name : String) (attributes : List String) : SearchRequest :=
  ⟨name, anyEntry, [], attributes, .base, .none⟩

/-- The entry of a name, none when it is not there or may not be read. -/
def readEntry (session : Session) (name : String) (attributes : List String) :
    Operation σ (Option Entry) := do
  match ← ((ofName name attributes).unique session).attempt with
  | .ok entry => pure entry
  | .error (.search error) =>
    if error.isUnreadable then
      Operation.log .debug .search s!"Unable to read {name}: {error.message}"
      pure none
    else throw (.search error)
  | .error failure => throw failure

end SearchRequest

end DirectoryAuth
