import DirectoryAuth.Console.Run
import DirectoryAuth.Network.Script

/-!
# The program

Reads the files and the password that a command line is about to ask for, runs the command, and
then writes its output and files. No directory is contacted: every one is out of reach.
-/

namespace DirectoryAuth.Program

open Console

/-- What a path leads to. -/
def nodeAt (path : String) : IO (Option Node) := do
  let place := (← IO.currentDir) / path
  if ← place.isDir then return some .folder
  try return some (.file (← IO.FS.readBinFile place).toList) catch _ => return none

/-- The paths that an invocation may touch, with the folders they are in. -/
def paths (i : Invocation) : List String :=
  let output := match i.command with
    | some (.generateConfig output) => output.toList
    | _ => []
  let named := i.config.toList ++ output
  named ++ named.flatMap Path.folders

/-- Asks for the password of an invocation, where it is needed and not given. -/
def typed (i : Invocation) : IO String := do
  match i.command with
  | some (.authenticate login none _) =>
    IO.eprint s!"Password for {login}: "
    let line ← (← IO.getStdin).getLine
    return String.ofList (line.toList.filter (· ≠ '\n'))
  | _ => return ""

/-- The network of a run: only files, and what was typed. -/
def rehearsal (i : Invocation) : IO Script := do
  let nodes ← (paths i).filterMapM fun path => do return (← nodeAt path).map (path, ·)
  return { Script.empty with files := .ofList nodes, typed := ← typed i }

/-- Writes the files that a run changed. -/
def store (before after : Script) : IO Unit :=
  after.files.nodes.forM fun (place, node) =>
    match node with
    | .file bytes =>
      if before.files.nodes.lookup place = some node then pure ()
      else IO.FS.writeBinFile place.path ⟨bytes.toArray⟩
    | .folder => pure ()

/-- Runs the program on its arguments. -/
def run (arguments : List String) : IO UInt32 := do
  let i := (Invocation.read arguments).toOption.getD .empty
  let script ← rehearsal i
  let colours ← (← IO.getStderr).isTty
  let (outcome, world) := (Console.run colours arguments).run Script.network (.start script)
  store script world.network
  let text := Console.transcript s!"{← IO.monoMsNow}" i.level
  IO.print (text .output world.history)
  IO.eprint (text .error world.history)
  match outcome with
  | .ok ending => return ending.status.toUInt32
  | .error failure =>
    IO.eprintln failure.message
    return 1

end DirectoryAuth.Program

def main (arguments : List String) : IO UInt32 := DirectoryAuth.Program.run arguments
