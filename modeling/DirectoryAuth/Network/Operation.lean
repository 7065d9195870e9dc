import DirectoryAuth.Failure
import DirectoryAuth.Journal
import DirectoryAuth.Network.Call

/-!
# Operations against a network

A network answers every call from a state of its own, in whatever way it likes. An operation runs
against a network in a world that keeps the network's state and the history of the run: every call
with its answer, every step of a paged search, every log record and every output. Views of the
history are what statements about a run speak of.
-/

namespace DirectoryAuth

/-- The answers of the outside world, and a bound on the members that one resolution of nested
groups may expand. -/
structure Network (σ : Type) where
  answer : (call : Call) → σ → Except Fault call.Reply × σ
  bound : σ → Nat

/-- One step in reading a paged answer. -/
inductive PageStep where
  | item (position : Nat)
  | fault
  | finished
  | closed
  deriving DecidableEq, Repr

inductive Stream where
  | output | error
  deriving DecidableEq, Repr

inductive Event where
  | exchange (call : Call) (answer : Except Fault call.Reply)
  | page (search : Nat) (step : PageStep)
  | logged (record : LogRecord)
  | printed (stream : Stream) (text : String)

structure World (σ : Type) where
  network : σ
  history : List Event
  /-- The numbers of the connections whose sessions were closed. -/
  closed : List Nat
  /-- How many connections were made. -/
  connections : Nat
  /-- How many paged searches were begun. -/
  pagedSearches : Nat
  /-- What each connection, by its number, has of the latest search on it: one report and one list of
  items, which all searches on the connection share. -/
  latest : Nat → SearchReply

/-- The world before anything happened. -/
def World.start {σ : Type} (network : σ) : World σ := ⟨network, [], [], 0, 0, fun _ => ⟨none, []⟩⟩

/-- What connections have of their latest searches once a call was answered. -/
def Call.leaving (latest : Nat → SearchReply) :
    (call : Call) → Except Fault call.Reply → Nat → SearchReply
  | .search connection _, .ok reply =>
    fun number => if number = connection.number then reply else latest number
  | .pagedSearch connection _ _, .ok reply =>
    fun number =>
      if number = connection.number then ⟨reply.report, reply.items⟩ else latest number
  | _, _ => latest

abbrev Operation (σ : Type) := ReaderT (Network σ) (ExceptT Failure (StateM (World σ)))

namespace Operation

variable {σ α : Type}

/-- The outcome of an operation and the world after it. -/
def run (operation : Operation σ α) (network : Network σ) (world : World σ) :
    Except Failure α × World σ :=
  operation network world

/-- Adds an event to the history. -/
def record (event : Event) : Operation σ Unit :=
  fun _ world => (.ok (), { world with history := world.history ++ [event] })

/-- Makes a call and waits for its answer. A fault ends the operation. -/
def perform (call : Call) : Operation σ call.Reply := fun network world =>
  let (answer, state) := network.answer call world.network
  (answer.mapError .outside,
    { world with
      network := state
      history := world.history ++ [.exchange call answer]
      latest := call.leaving world.latest answer })

/-- Writes a log record. -/
def log (level : Level) (component : Component) (message : String) : Operation σ Unit :=
  record (.logged ⟨level, component, message⟩)

/-- Writes a line of output. -/
def printLine (stream : Stream) (text : String) : Operation σ Unit :=
  record (.printed stream (text ++ "\n"))

/-- Runs an operation to its outcome, whatever that is. -/
def attempt (operation : Operation σ α) : Operation σ (Except Failure α) :=
  fun network world =>
    let (outcome, world) := operation network world
    (.ok outcome, world)

/-- Ends with an outcome that is already known. -/
def ofOutcome (outcome : Except Failure α) : Operation σ α := fun _ world => (outcome, world)

/-- Runs `after` once `operation` is through, however it ended. The outcome is that of `operation`
unless `after` fails. -/
def andFinally (operation : Operation σ α) (after : Operation σ Unit) : Operation σ α := do
  let outcome ← operation.attempt
  after
  ofOutcome outcome

/-- A fault of the directory client becomes a failure; other faults are passed on. -/
def translating (operation : Operation σ α) (translate : Fault → Failure) : Operation σ α := do
  match ← operation.attempt with
  | .ok value => pure value
  | .error (.outside fault) =>
    throw (if fault.isDirectory then translate fault else .outside fault)
  | .error failure => throw failure

end Operation

/-! ## Views of a history -/

namespace Event

def call? : Event → Option Call
  | .exchange call _ => some call
  | _ => none

def record? : Event → Option LogRecord
  | .logged record => some record
  | _ => none

end Event

namespace World

variable {σ : Type}

/-- The calls of a run, in order. -/
def calls (world : World σ) : List Call := world.history.filterMap Event.call?

/-- The log records of a run, in order. -/
def records (world : World σ) : List LogRecord := world.history.filterMap Event.record?

end World

end DirectoryAuth
