import DirectoryAuth.Text.Digit
import DirectoryAuth.Text.Quoted

/-!
# Command line grammars

A grammar says which options and operands a command takes. Options begin with a hyphen; those of
one letter may be joined, and long ones cut short where that leaves no doubt. The value of an option
is the next argument, or stands in the same one: behind an equals sign, or right behind the name of
one letter. Two hyphens alone end the options. Arguments are first told apart by their looks, then
read from left to right. What a grammar has no use for is left over, for the caller to judge.
-/

namespace DirectoryAuth.Console

open Text

/-- What an option does to the value that is being read. -/
inductive Effect (α : Type) where
  | flag (set : α → α)
  /-- The option takes a value, which the separator of options cannot be. -/
  | value (set : Option String → α → α)
  | help

structure OptionRule (α : Type) where
  names : List String
  effect : Effect α

/-- What a command takes besides options. -/
inductive Operand (α : Type) where
  | nothing
  | one (name : String) (set : String → α → α)
  /-- The first operand and all arguments behind it. -/
  | rest

structure Grammar (α : Type) where
  program : String
  usage : String
  help : String
  options : List (OptionRule α)
  operand : Operand α

/-- Why reading stopped. -/
inductive Stop where
  | help (text : String)
  | misuse (usage program message : String)

/-- An argument by its looks. -/
inductive Token (α : Type) where
  | operand (text : String)
  | separator
  /-- An option by one of its names, with what stands behind it in the same argument. -/
  | option (rule : OptionRule α) (name : String) (tail : Option String)
  /-- It looks like an option, but there is no such option. -/
  | unknown (text : String)

/-- What was read, the arguments behind the first operand, and what was left over. -/
structure Reading (α : Type) where
  value : α
  rest : List String
  extras : List String

namespace Grammar

variable {α : Type}

def misuse {β : Type} (g : Grammar α) (message : String) : Except Stop β :=
  .error (.misuse g.usage g.program message)

/-- The fault of an option. -/
def optionFault {β : Type} (g : Grammar α) (rule : OptionRule α) (message : String) :
    Except Stop β :=
  let names := String.intercalate "/" rule.names
  g.misuse s!"argument {names}: {message}"

/-! ## Telling arguments apart -/

/-- All names of options with their rules. -/
def names (g : Grammar α) : List (String × OptionRule α) :=
  g.options.flatMap fun rule => rule.names.map (·, rule)

def find? (g : Grammar α) (name : String) : Option (OptionRule α) := g.names.lookup name

/-- Divides at the first equals sign. -/
def splitValue (cs : List Char) : List Char × Option String :=
  match cs.dropWhile (· ≠ '=') with
  | [] => (cs, none)
  | _ :: value => (cs.takeWhile (· ≠ '='), some (String.ofList value))

/-- The options that an argument may mean which is the name of none. -/
def candidates (g : Grammar α) (cs : List Char) : List (OptionRule α × String × Option String) :=
  match cs with
  | '-' :: '-' :: _ =>
    let (start, tail) := splitValue cs
    (g.names.filter fun (name, _) => start.isPrefixOf name.toList).map
      fun (name, rule) => (rule, name, tail)
  | '-' :: letter :: rest =>
    let short := String.ofList ['-', letter]
    (g.names.filter fun (name, _) => name == short).map
      fun (name, rule) => (rule, name, some (String.ofList rest))
  | _ => []

/-- Is it a negative number, with digits of any script? A line feed at its end does not count. -/
def isNegativeNumber (cs : List Char) : Bool :=
  match if cs.getLast? = some '\n' then cs.dropLast else cs with
  | '-' :: digits =>
    match digits.dropWhile isDigit with
    | [] => !digits.isEmpty
    | '.' :: places => !places.isEmpty && places.all isDigit
    | _ => false
  | _ => false

/-- The option whose name stands in front of an equals sign. -/
def assigned? (g : Grammar α) (cs : List Char) : Option (Token α) :=
  match splitValue cs with
  | (_, none) => none
  | (start, tail) =>
    let name := String.ofList start
    (g.find? name).map (.option · name tail)

/-- An argument that begins with a hyphen and is the name of no option. -/
def hyphened (g : Grammar α) (text : String) : Except Stop (Token α) :=
  let cs := text.toList
  match g.assigned? cs, g.candidates cs with
  | some token, _ => .ok token
  | none, [] =>
    .ok (if isNegativeNumber cs || cs.contains ' ' then .operand text else .unknown text)
  | none, [(rule, name, tail)] => .ok (.option rule name tail)
  | none, several =>
    let names := String.intercalate ", " (several.map fun (_, name, _) => name)
    g.misuse s!"ambiguous option: {text} could match {names}"

def token (g : Grammar α) (text : String) : Except Stop (Token α) :=
  match text.toList, g.find? text with
  | '-' :: _, some rule => .ok (.option rule text none)
  | '-' :: _ :: _, none => g.hyphened text
  | _, _ => .ok (.operand text)

/-- The two hyphens that end the options. -/
def separator : String := "--"

/-- The tokens of arguments. Behind the separator there are no options. -/
def tokens (g : Grammar α) : List String → Except Stop (List (Token α))
  | [] => .ok []
  | text :: texts =>
    if text = separator then .ok (.separator :: texts.map .operand)
    else do return (← g.token text) :: (← g.tokens texts)

/-! ## Reading options -/

/-- An option with its value, if its argument holds one. -/
abbrev Use (α : Type) := OptionRule α × Option String

/-- Is an option named by one hyphen? -/
def isShort (name : String) : Bool := name.toList[1]? != some '-'

/-- The fault of an option that takes no value but was given one. -/
def ignored {β : Type} (g : Grammar α) (rule : OptionRule α) (text : String) : Except Stop β :=
  g.optionFault rule s!"ignored explicit argument {quoted text}"

/-- The options in an argument that goes on behind the name of an option of one letter. What goes on
is the value of an option that takes one; behind any other it must begin with the letter of another
option. -/
def joined (g : Grammar α) (rule : OptionRule α) : List Char → Except Stop (List (Use α))
  | [] => g.ignored rule ""
  | letter :: cs =>
    let text := String.ofList (letter :: cs)
    match rule.effect with
    | .value _ => .ok [(rule, some text)]
    | .flag _ | .help =>
      match g.find? (String.ofList ['-', letter]) with
      | none => g.ignored rule text
      | some next =>
        if cs.isEmpty then .ok [(rule, none), (next, none)]
        else do return (rule, none) :: (← g.joined next cs)

/-- The options in an argument that begins with the name of an option. -/
def uses (g : Grammar α) (rule : OptionRule α) (name : String) (tail : Option String) :
    Except Stop (List (Use α)) :=
  match tail, rule.effect with
  | none, _ => .ok [(rule, none)]
  | some text, .value _ => .ok [(rule, some text)]
  | some text, .flag _ | some text, .help =>
    if isShort name then g.joined rule text.toList else g.ignored rule text

/-- The value that a text gives an option: none, if it is the separator. -/
def given? (text : String) : Option String := if text = separator then none else some text

/-- Carries out options in order. -/
def carryOut (g : Grammar α) (value : α) : List (Use α) → Except Stop α
  | [] => .ok value
  | (rule, text) :: uses =>
    match rule.effect with
    | .flag set => g.carryOut (set value) uses
    | .value set => g.carryOut (set (text.bind given?) value) uses
    | .help => .error (.help g.help)

/-- Does the last option of an argument still lack its value? -/
def lacksValue (uses : List (Use α)) : Bool :=
  match uses.getLast? with
  | some (⟨_, .value _⟩, none) => true
  | _ => false

/-- Gives the last option its value. -/
def withValue (uses : List (Use α)) (text : String) : List (Use α) :=
  match uses.getLast? with
  | some (rule, _) => uses.dropLast ++ [(rule, some text)]
  | none => uses

/-- The fault of the last option when its value is missing. -/
def missingValue {β : Type} (g : Grammar α) (uses : List (Use α)) : Except Stop β :=
  match uses.getLast? with
  | some (rule, _) => g.optionFault rule "expected one argument"
  | none => g.misuse "expected one argument"

/-! ## Reading arguments -/

/-- Puts a text in front of what was left over. -/
def leaving (text : String) (r : Reading α) : Reading α := { r with extras := text :: r.extras }

/-- The tokens behind a separator, if they begin with one. -/
def behindSeparator : List (Token α × String) → List (Token α × String)
  | (.separator, _) :: tokens => tokens
  | tokens => tokens

theorem length_behindSeparator (tokens : List (Token α × String)) :
    (behindSeparator tokens).length ≤ tokens.length := by
  unfold behindSeparator
  split <;> simp

/-- Reads tokens with the arguments they stand for; `pending` says whether the operand is still to
come. -/
def readTokens (g : Grammar α) (value : α) (pending : Bool) :
    List (Token α × String) → Except Stop (Reading α)
  | [] =>
    match g.operand, pending with
    | .one name _, true => g.misuse s!"the following arguments are required: {name}"
    | _, _ => .ok ⟨value, [], []⟩
  | (.unknown _, text) :: tokens => (g.readTokens value pending tokens).map (leaving text)
  | (.option rule name tail, _) :: tokens => do
    let uses ← g.uses rule name tail
    if lacksValue uses then
      match tokens with
      | (.operand text, _) :: rest =>
        g.readTokens (← g.carryOut value (withValue uses text)) pending rest
      | _ => g.missingValue uses
    else g.readTokens (← g.carryOut value uses) pending tokens
  | (.separator, text) :: tokens =>
    match g.operand, pending && !tokens.isEmpty with
    | .rest, true => .ok ⟨value, text :: tokens.map (·.2), []⟩
    | .one _ _, true => g.readTokens value pending tokens
    | _, _ => (g.readTokens value pending tokens).map (leaving text)
  | (.operand _, text) :: tokens =>
    match g.operand, pending with
    | .rest, true => .ok ⟨value, text :: tokens.map (·.2), []⟩
    | .one _ set, true => g.readTokens (set text value) false (behindSeparator tokens)
    | _, _ => (g.readTokens value pending tokens).map (leaving text)
termination_by tokens => tokens.length
decreasing_by
  all_goals simp only [List.length_cons]
  all_goals first
    | omega
    | exact Nat.lt_succ_of_le (length_behindSeparator _)

/-- Reads arguments, starting from a value. -/
def read (g : Grammar α) (value : α) (arguments : List String) : Except Stop (Reading α) := do
  g.readTokens value true ((← g.tokens arguments).zip arguments)

end Grammar

end DirectoryAuth.Console
