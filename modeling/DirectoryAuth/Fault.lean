import DirectoryAuth.Text.Quoted

/-!
# Faults of the outside world

What can go wrong in a service that the library calls: the directory client, the operating system,
the name service, the ticket service. A fault is what such a call ends with instead of a reply.
-/

namespace DirectoryAuth

inductive Fault where
  /-- Reported by the directory client. -/
  | directory (message : String)
  /-- Reported by the operating system. -/
  | system (message : String)
  | noSuchFile (path : String)
  | isFolder (path : String)
  | notFolder (path : String)
  | nameTooLong (path : String)
  /-- A path has a null character, which no operating system takes. -/
  | nullInPath
  /-- Reported by the name service. -/
  | nameService (message : String)
  /-- Reported by the ticket service, with its code where it has one. -/
  | ticket (message : String) (code : Option Int)
  | missingPackage (name : String)
  /-- Anything else, such as a defect in a called library. -/
  | internal (message : String)
  deriving DecidableEq, Repr

namespace Fault

/-- A message of the operating system about a path. -/
def pathMessage (code : Nat) (text path : String) : String :=
  s!"[Errno {code}] {text}: {Text.quoted path}"

def message : Fault → String
  | .directory m | .system m | .nameService m | .ticket m _ | .internal m => m
  | .noSuchFile path => pathMessage 2 "No such file or directory" path
  | .isFolder path => pathMessage 21 "Is a directory" path
  | .notFolder path => pathMessage 20 "Not a directory" path
  | .nameTooLong path => pathMessage 36 "File name too long" path
  | .nullInPath => "embedded null byte"
  | .missingPackage name => s!"No module named {Text.quoted name}"

def isDirectory : Fault → Bool
  | .directory _ => true
  | _ => false

/-- Does the operating system report it? -/
def isSystem : Fault → Bool
  | .system _ | .noSuchFile _ | .isFolder _ | .notFolder _ | .nameTooLong _ => true
  | _ => false

end Fault

end DirectoryAuth
