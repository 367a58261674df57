import AbiTypings.Files.Access

/-!
# File trees

A tree of directories and files as a value, with a working directory. A path is followed segment by
segment, and everything it passes through must be a directory; what it leads to may be missing.
-/

namespace AbiTypings

/-- Where something is in a tree: the names on the way from the root. -/
abbrev Place := List String

/-- What is at a place. -/
inductive Node where
  | directory
  | file (content : String)
  deriving DecidableEq, Repr

/-- A file tree. The root is a directory without being listed. -/
structure FileTree where
  nodes : List (Place × Node) := []
  /-- The working directory. -/
  here : Place := []
  deriving DecidableEq, Repr

namespace FileTree

/-- What is at a place. -/
def node? (t : FileTree) (place : Place) : Option Node :=
  if place.isEmpty then some .directory else t.nodes.lookup place

/-- Put something at a place. What was there is replaced. -/
def put (t : FileTree) (place : Place) (node : Node) : FileTree :=
  { t with nodes := (place, node) :: t.nodes.filter (·.1 != place) }

/-! ## Following paths -/

/-- The place that one segment leads to. -/
def follow (place : Place) (segment : String) : Place :=
  if Path.isIdle segment then place
  else if segment = ".." then place.dropLast
  else place ++ [segment]

/-- The place that segments lead to. -/
def walk (t : FileTree) : Place → List String → Except FileError Place
  | place, [] => .ok place
  | place, segment :: rest =>
    match t.node? place with
    | some .directory => walk t (follow place segment) rest
    | some (.file _) => .error .notDirectory
    | none => .error .notFound

/-- The place that a path leads to. -/
def locate (t : FileTree) (path : String) : Except FileError Place :=
  if path = "" then .error .notFound
  else t.walk (if Path.isAbsolute path then [] else t.here) (Path.segments path)

/-- What a path leads to. -/
def at? (t : FileTree) (path : String) : Option Node :=
  match t.locate path with
  | .ok place => t.node? place
  | .error _ => none

/-! ## Operations -/

/-- Read a file. -/
def readFile (t : FileTree) (path : String) : Except FileError String := do
  match t.node? (← t.locate path) with
  | some (.file content) => return content
  | some .directory => throw .isDirectory
  | none => throw .notFound

/-- Write a file, whether or not there is one. -/
def writeFile (t : FileTree) (path content : String) : Except FileError FileTree := do
  let place ← t.locate path
  match t.node? place with
  | some .directory => throw .isDirectory
  | _ => return t.put place (.file content)

/-- Drop the slashes at the end of a path. -/
def withoutEndSlashes (path : String) : String :=
  String.ofList (path.toList.reverse.dropWhile (· = '/')).reverse

/-- Make a directory where there is nothing. -/
def makeDirectory (t : FileTree) (path : String) : Except FileError FileTree := do
  let bare := withoutEndSlashes path
  let place ← t.locate (if bare = "" then path else bare)
  match t.node? place with
  | some _ => throw .alreadyExists
  | none => return t.put place .directory

/-- Run an operation that changes the tree when it succeeds. -/
def change (operation : FileTree → Except FileError FileTree) :
    StateM FileTree (Except FileError Unit) :=
  modifyGet fun t =>
    match operation t with
    | .ok changed => (.ok (), changed)
    | .error e => (.error e, t)

/-- Access to a file tree. -/
def access : FileAccess (StateM FileTree) where
  readFile path := return (← get).readFile path
  writeFile path content := change (·.writeFile path content)
  makeDirectory path := change (·.makeDirectory path)
  isDirectory path := return (← get).at? path == some .directory
  isPresent path := return ((← get).at? path).isSome

end FileTree
end AbiTypings
