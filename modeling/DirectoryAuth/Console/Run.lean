import DirectoryAuth.Console.Invocation
import DirectoryAuth.Logging
import DirectoryAuth.Realm
import DirectoryAuth.Settings.File
import DirectoryAuth.Text.Json

/-!
# Running commands

Every command reads its settings, does its work against the network and ends with an exit code: 0
where the answer is yes, 1 where it is no or a failure was foreseen. Results go to the output, all
else to the error stream. Faults that nobody foresees end the program.
-/

namespace DirectoryAuth.Console

variable {σ : Type}

/-- How the program ends: with the code of a command, or because of its command line. -/
inductive Exit where
  | code (n : Nat)
  | stopped (n : Nat)
  deriving DecidableEq, Repr

/-! ## Colours -/

inductive Colour where
  | red | green | orange | blue | lightBlue
  deriving DecidableEq, Repr

/-- The sequence that turns a colour on. -/
def Colour.sequence : Colour → String
  | .red => "\x1b[0;31m"
  | .green => "\x1b[0;32m"
  | .orange => "\x1b[0;33m"
  | .blue => "\x1b[0;34m"
  | .lightBlue => "\x1b[1;34m"

/-- The sequence that turns colours off. -/
def plainSequence : String := "\x1b[0m"

/-- Text in a colour, where colours are shown at all. -/
def paint (colours : Bool) (colour : Colour) (text : String) : String :=
  if colours then colour.sequence ++ text ++ plainSequence else text

/-- A line of the error stream. -/
def tell (colours : Bool) (colour : Colour) (text : String) : Operation σ Unit :=
  Operation.printLine .error (paint colours colour text)

/-- A line of the output. -/
def say (text : String) : Operation σ Unit := Operation.printLine .output text

/-! ## Preparation -/

/-- Puts the overrides of an invocation over settings, in order. -/
def overridden (s : Settings) : List (Option String) → Except Failure Settings
  | [] => .ok s
  | none :: _ => .error .textlessOverride
  | some text :: rest => do overridden (← (s.override text).mapError .setting) rest

/-- The settings of an invocation: those of its file, with its overrides over them. -/
def settings (colours : Bool) (i : Invocation) : Operation σ Settings := do
  let loaded ← match i.config.filter (· ≠ "") with
    | none => pure Settings.empty
    | some path =>
      let loaded ← Settings.load path
      tell colours .green s!"[+] Loaded config from: {path}"
      pure loaded
  Operation.ofOutcome (overridden loaded i.overrides)

/-- The realm of an invocation, ready for use. -/
def readyRealm (colours : Bool) (i : Invocation) : Operation σ Realm := do
  let (realm, outcome) ← (Realm.ofSettings (← settings colours i)).setUp
  Operation.ofOutcome outcome
  pure realm

/-! ## Commands -/

/-- Tests one server. Did it succeed? -/
def testOne (colours : Bool) (c : Connector) : Operation σ Bool := do
  match ← c.test.attempt with
  | .ok () =>
    tell colours .green s!"[+] {c.key}: {c.address} OK"
    pure true
  | .error failure =>
    if failure.isForeseen then
      tell colours .red s!"[!] {c.key}: {c.address} FAILED: {failure.message}"
      pure false
    else throw failure

/-- Tests every server, also after failures. -/
def testConnection (colours : Bool) (i : Invocation) : Operation σ Nat := do
  let roster := Roster.ofSettings (← settings colours i)
  let connectors ← Realm.connectAll (← roster.servers)
  let results ← connectors.mapM (testOne colours)
  pure (if results.all id then 0 else 1)

/-- A verdict as JSON. -/
def verdictJson (v : Verdict) : Text.Json :=
  .object [
    ("login", .text v.login),
    ("success", .truth v.isSuccess),
    ("server_key", (v.server?.map .text).getD .null),
    ("attempts", .list (v.attempts.map fun a => .object [
      ("server_key", .text a.server),
      ("status", .text a.status.name),
      ("ad_status", .text a.reason)]))]

/-- Tells of an attempt with one server. -/
def tellAttempt (colours : Bool) (v : Verdict) (a : Attempt) : Operation σ Unit :=
  let colour := if v.server? = some a.server then .green else .orange
  let reason := if a.reason.isEmpty then "" else s!" ({a.reason})"
  tell colours colour s!"[*] {a.server}: {a.status.name}{reason}"

/-- The password of an invocation, which is asked for where it is not given. -/
def password (login : String) (given : Option String) : Operation σ String :=
  match given with
  | some password => pure password
  | none => Operation.perform (.askPassword s!"Password for {login}: ")

def authenticate (colours : Bool) (i : Invocation) (login : String) (given : Option String)
    (json : Bool) : Operation σ Nat := do
  let password ← password login given
  let realm ← readyRealm colours i
  let verdict ← realm.verdict login password
  if json then say (verdictJson verdict).write
  verdict.attempts.forM (tellAttempt colours verdict)
  match verdict.server? with
  | some server =>
    tell colours .green s!"[+] {login} authenticated by {server}"
    pure 0
  | none =>
    tell colours .red s!"[!] Authentication failed for {login}"
    pure 1

/-- Shows what was found about a user. That the user is not known is no failure of the program. -/
def showFound {α : Type} (colours : Bool) (fetch : Operation σ α)
    (showValue : α → Operation σ Unit) : Operation σ Nat := do
  match ← fetch.attempt with
  | .ok value =>
    showValue value
    pure 0
  | .error (.notFound login) =>
    tell colours .orange s!"[!] {(Failure.notFound login).message}"
    pure 1
  | .error failure => throw failure

def showDetails (colours json : Bool) (d : Details) : Operation σ Unit := do
  if json then say (Text.Json.object [("name", .text d.name), ("email", .text d.email)]).write
  else
    say ("  " ++ paint colours .lightBlue "Name:" ++ "  " ++ d.name)
    say ("  " ++ paint colours .lightBlue "Email:" ++ " " ++ d.email)

def showGroups (colours json : Bool) (login : String) (groups : List String) :
    Operation σ Unit := do
  if json then say (Text.Json.list (groups.map .text)).write
  else if groups.isEmpty then tell colours .orange s!"[!] {login} is not a member of any group"
  else groups.forM say

def discover (colours : Bool) (realm : String) : Operation σ Nat := do
  let urls ← Discovery.discover realm
  tell colours .blue s!"[+] Base DN: {realmBase realm}"
  if urls.isEmpty then
    tell colours .orange s!"[!] No LDAP server found for {realm}"
    pure 1
  else
    urls.forM say
    pure 0

def generateConfig (colours : Bool) (output : Option String) : Operation σ Nat := do
  let text ← Settings.generate output
  match output.filter (· ≠ "") with
  | some _ => tell colours .green s!"[+] {text}"
  | none => say text
  pure 0

/-- Runs a command. -/
def runCommand (colours : Bool) (i : Invocation) : Command → Operation σ Nat
  | .testConnection => testConnection colours i
  | .authenticate login given json => authenticate colours i login given json
  | .userDetails login json => do
    let realm ← readyRealm colours i
    showFound colours (realm.fetchDetails login) (showDetails colours json)
  | .groups login json => do
    let realm ← readyRealm colours i
    showFound colours (realm.fetchGroups login) (showGroups colours json login)
  | .discover realm => discover colours realm
  | .generateConfig output => generateConfig colours output

/-! ## The program -/

/-- Runs a command, and tells of a failure that was foreseen. -/
def runReporting (colours : Bool) (i : Invocation) (command : Command) : Operation σ Nat := do
  match ← (runCommand colours i command).attempt with
  | .ok code => pure code
  | .error failure =>
    if failure.isForeseen then
      tell colours .red s!"[!] {failure.message}"
      pure 1
    else throw failure

/-- Ends the program because of its command line. -/
def stop : Stop → Operation σ Exit
  | .help text => do
    Operation.record (.printed .output text)
    pure (.stopped 0)
  | .misuse usage program message => do
    Operation.record (.printed .error (usage ++ s!"{program}: error: {message}\n"))
    pure (.stopped 2)

/-- Runs the program on its arguments. `colours` says whether the error stream shows colours. -/
def run (colours : Bool) (arguments : List String) : Operation σ Exit := do
  match Invocation.read arguments with
  | .error reason => stop reason
  | .ok i =>
    match i.command with
    | some command => return .code (← runReporting colours i command)
    | none =>
      Operation.record (.printed .output Usage.help)
      pure (.code 1)

/-- The lowest level of the log records that an invocation shows. -/
def Invocation.level (i : Invocation) : Level :=
  match i.verbosity with
  | 0 => .warning
  | 1 => .info
  | _ => .debug

/-- The lowest level of the log records that are shown for a command line. -/
def levelOf (arguments : List String) : Level :=
  match Invocation.read arguments with
  | .ok i => i.level
  | .error _ => .warning

/-- What an event writes to a stream. Log records go to the error stream. -/
def written (time : String) (lowest : Level) (stream : Stream) : Event → String
  | .printed target text => if target = stream then text else ""
  | .logged record =>
    if stream = .error && Logging.isShown lowest record.level then
      Logging.recordLine time record
    else ""
  | .exchange _ _ | .page _ _ => ""

/-- All that a run wrote to a stream. -/
def transcript (time : String) (lowest : Level) (stream : Stream) (history : List Event) : String :=
  String.join (history.map (written time lowest stream))

/-- The code with which the process ends. -/
def Exit.status : Exit → Nat
  | .code n | .stopped n => n

end DirectoryAuth.Console
