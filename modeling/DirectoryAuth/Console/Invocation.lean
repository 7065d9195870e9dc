import DirectoryAuth.Console.Grammar
import DirectoryAuth.Console.Usage

/-!
# Invocations

What a command line asks for: global options, a command, and what the command works on.
-/

namespace DirectoryAuth.Console

inductive Command where
  | testConnection
  | authenticate (login : String) (password : Option String) (json : Bool)
  | userDetails (login : String) (json : Bool)
  | groups (login : String) (json : Bool)
  | discover (realm : String)
  | generateConfig (output : Option String)
  deriving DecidableEq, Repr

structure Invocation where
  config : Option String
  /-- The texts of overrides; one that was given without any text has none. -/
  overrides : List (Option String)
  verbosity : Nat
  command : Option Command
  deriving DecidableEq, Repr

namespace Invocation

/-- An invocation without any arguments. -/
def empty : Invocation := ⟨none, [], 0, none⟩

def helpRule {α : Type} : OptionRule α := ⟨["-h", "--help"], .help⟩

/-- The grammar of the program: global options, then a command. -/
def grammar : Grammar Invocation where
  program := Usage.program
  usage := Usage.usage
  help := Usage.help
  options := [
    helpRule,
    ⟨["-c", "--config"], .value fun text i => { i with config := text }⟩,
    ⟨["-s", "--set"], .value fun text i => { i with overrides := i.overrides ++ [text] }⟩,
    ⟨["-v", "--verbose"], .flag fun i => { i with verbosity := i.verbosity + 1 }⟩]
  operand := .rest

/-- What the options and the operand of a command set. -/
structure Draft where
  subject : String
  value : Option String
  json : Bool

def Draft.empty : Draft := ⟨"", none, false⟩

def jsonRule : OptionRule Draft := ⟨["--json"], .flag fun d => { d with json := true }⟩

/-- An option whose value the command keeps. -/
def valueRule (names : List String) : OptionRule Draft :=
  ⟨names, .value fun text d => { d with value := some (text.getD "") }⟩

/-- A single operand of the given name. -/
def subjectOf (name : String) : Operand Draft := .one name fun text d => { d with subject := text }

/-- A command with its options and operand, and how it is made from them. -/
structure CommandRule where
  name : String
  help : Usage.CommandHelp
  options : List (OptionRule Draft)
  operand : Operand Draft
  command : Draft → Command

def commandRules : List CommandRule := [
  ⟨"test-connection", Usage.testConnection, [], .nothing, fun _ => .testConnection⟩,
  ⟨"authenticate", Usage.authenticate, [valueRule ["-p", "--password"], jsonRule],
    subjectOf "login", fun d => .authenticate d.subject d.value d.json⟩,
  ⟨"user-details", Usage.userDetails, [jsonRule], subjectOf "login",
    fun d => .userDetails d.subject d.json⟩,
  ⟨"groups", Usage.groups, [jsonRule], subjectOf "login", fun d => .groups d.subject d.json⟩,
  ⟨"discover", Usage.discover, [], subjectOf "realm", fun d => .discover d.subject⟩,
  ⟨"generate-config", Usage.generateConfig, [valueRule ["-o", "--output"]], .nothing,
    fun d => .generateConfig d.value⟩]

/-- The grammar of a command. -/
def CommandRule.grammar (rule : CommandRule) : Grammar Draft where
  program := Usage.program ++ " " ++ rule.name
  usage := rule.help.usage
  help := rule.help.usage ++ rule.help.details
  options := helpRule :: rule.options
  operand := rule.operand

/-- Reads a command and its arguments, and gives it with what was left over. -/
def readCommand (name : String) (arguments : List String) :
    Except Stop (Command × List String) :=
  match commandRules.find? (·.name == name) with
  | some rule => do
    let reading ← rule.grammar.read .empty arguments
    return (rule.command reading.value, reading.extras)
  | none =>
    let choices := String.intercalate ", " (commandRules.map fun rule => Text.quoted rule.name)
    grammar.misuse
      s!"argument command: invalid choice: {Text.quoted name} (choose from {choices})"

/-- The invocation, unless something was left over. -/
def complete (i : Invocation) (extras : List String) : Except Stop Invocation :=
  if extras.isEmpty then .ok i
  else grammar.misuse ("unrecognized arguments: " ++ String.intercalate " " extras)

/-- Reads a command line. -/
def read (arguments : List String) : Except Stop Invocation := do
  let reading ← grammar.read empty arguments
  match reading.rest with
  | [] => reading.value.complete reading.extras
  | name :: rest =>
    let (command, extras) ← readCommand name rest
    { reading.value with command := some command }.complete (reading.extras ++ extras)

end Invocation

end DirectoryAuth.Console
