import DirectoryAuth.Fault

/-!
# A store of files

Files and folders, and how a path leads to them. The names of a path are followed one by one, and
each but the last must be that of a folder. A dot stays where it is, two dots lead to the folder
above, and slashes may be repeated. Nothing is taken to be at a place that the store does not know,
apart from the folders above the one that paths start from.
-/

namespace DirectoryAuth

/-- What a path leads to. -/
inductive Node where
  | file (bytes : List UInt8)
  | folder
  deriving DecidableEq, Repr

/-- A folder to count from: the one that paths start from or one above it, or the topmost one. -/
inductive Anchor where
  | above (levels : Nat)
  | top
  deriving DecidableEq, Repr

/-- A place, down by names from an anchor. -/
structure Place where
  anchor : Anchor
  names : List String
  deriving DecidableEq, Repr

/-- What is known to be at some places. -/
structure Store where
  nodes : List (Place × Node)
  deriving DecidableEq, Repr

/-! ## Paths -/

namespace Path

/-- The most bytes of a name. -/
def longestName : Nat := 255

/-- The most bytes of a path. -/
def longestPath : Nat := 4095

/-- The names in a path. -/
def names (path : String) : List String := (path.splitOn "/").filter (· ≠ "")

/-- A path that ends in a slash can only be that of a folder. -/
def endsInSlash (path : String) : Bool := path.toList.getLast? == some '/'

/-- Is a name one of the two that stand for a folder by its position? -/
def isDots (name : String) : Bool := name == "." || name == ".."

/-- The paths of the folders that a path goes through. -/
def folders (path : String) : List String :=
  let names := names path
  let front := if path.toList.head? = some '/' then "/" else ""
  (List.range names.length).map fun n => front ++ String.intercalate "/" (names.take n)

/-- Why a path is no path, if so. -/
def fault? (path : String) : Option Fault :=
  if path.toList.contains '\x00' then some .nullInPath
  else if path.isEmpty then some (.noSuchFile path)
  else if longestPath < path.utf8ByteSize then some (.nameTooLong path)
  else none

end Path

namespace Place

/-- The folder that paths start from. -/
def home : Place := ⟨.above 0, []⟩

/-- Where a path starts; a slash in front means the topmost folder. -/
def start (path : String) : Place := if path.toList.head? = some '/' then ⟨.top, []⟩ else home

/-- What a folder holds under a name. -/
def below (p : Place) (name : String) : Place := { p with names := p.names ++ [name] }

/-- The folder above. -/
def parent (p : Place) : Place :=
  match p.names, p.anchor with
  | [], .above levels => ⟨.above (levels + 1), []⟩
  | [], .top => p
  | _ :: _, _ => { p with names := p.names.dropLast }

/-- Where a name of a path leads from a folder. -/
def step (p : Place) (name : String) : Place :=
  if name = "." then p
  else if name = ".." then p.parent
  else p.below name

/-- Where a path leads, if all its folders exist. -/
def ofPath (path : String) : Place := (Path.names path).foldl step (start path)

/-- The shortest path to a place. -/
def path (p : Place) : String :=
  match p.anchor with
  | .above levels => String.intercalate "/" (List.replicate levels ".." ++ p.names)
  | .top => "/" ++ String.intercalate "/" p.names

end Place

/-! ## Following paths -/

namespace Store

/-- A store that knows of nothing. -/
def empty : Store := ⟨[]⟩

/-- A store of nodes that are given by their paths. -/
def ofList (nodes : List (String × Node)) : Store :=
  ⟨nodes.map fun (path, node) => (Place.ofPath path, node)⟩

/-- Does a folder hold a place, at whatever depth? -/
def holds (folder place : Place) : Bool :=
  folder.anchor = place.anchor && folder.names.isPrefixOf place.names

/-- What is at a place. A folder is there as soon as something is in it. -/
def node? (s : Store) (p : Place) : Option Node :=
  match s.nodes.lookup p with
  | some node => some node
  | none => if p.names.isEmpty || s.nodes.any (holds p ·.1) then some .folder else none

/-- What a folder holds under a name of a path. -/
def find (s : Store) (path : String) (p : Place) (name : String) : Except Fault (Option Node) :=
  if Path.longestName < name.utf8ByteSize then .error (.nameTooLong path)
  else .ok (s.node? (p.below name))

/-- Goes from a folder to the one that the next name of a path leads to. -/
def enter (s : Store) (path : String) (p : Place) (name : String) : Except Fault Place :=
  if Path.isDots name then .ok (p.step name)
  else do
    match ← s.find path p name with
    | some .folder => .ok (p.below name)
    | some (.file _) => .error (.notFolder path)
    | none => .error (.noSuchFile path)

/-- The folder that the last name of a path is looked up in, and that name. -/
def locate (s : Store) (path : String) : Except Fault (Place × String) :=
  match Path.fault? path with
  | some fault => .error fault
  | none => do
    let names := Path.names path
    let folder ← names.dropLast.foldlM (s.enter path) (Place.start path)
    match names.getLast? with
    | some name => if Path.isDots name then .error (.isFolder path) else .ok (folder, name)
    | none => .error (.isFolder path)

/-- The bytes of a file. -/
def read (s : Store) (path : String) : Except Fault (List UInt8) := do
  let (folder, name) ← s.locate path
  match ← s.find path folder name with
  | some (.file bytes) =>
    if Path.endsInSlash path then .error (.notFolder path) else .ok bytes
  | some .folder => .error (.isFolder path)
  | none => .error (.noSuchFile path)

/-- Puts a file at a place, over the one that is there. -/
def put (s : Store) (p : Place) (bytes : List UInt8) : Store :=
  ⟨s.nodes.filter (·.1 ≠ p) ++ [(p, .file bytes)]⟩

/-- The store after a file was written. -/
def write (s : Store) (path : String) (bytes : List UInt8) : Except Fault Store := do
  let (folder, name) ← s.locate path
  if Path.endsInSlash path then .error (.isFolder path)
  else
    match ← s.find path folder name with
    | some .folder => .error (.isFolder path)
    | _ => .ok (s.put (folder.below name) bytes)

end Store

end DirectoryAuth
