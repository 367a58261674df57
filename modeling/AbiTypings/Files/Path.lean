/-!
# Paths

Paths as they are written: segments with slashes between them. A path that begins with a slash is
absolute. Segments that are empty or a single point are passed over, apart from the first: a leading
point is kept, and a leading slash is the root. Interior segments are never rewritten, so a path is
shown as it was given.
-/

namespace AbiTypings.Path

/-- Split characters at slashes. -/
def splitSlash : List Char → List (List Char)
  | [] => [[]]
  | c :: cs =>
    if c = '/' then [] :: splitSlash cs
    else
      match splitSlash cs with
      | [] => [[c]]
      | segment :: rest => (c :: segment) :: rest

/-- The segments of a path. A path that begins with a slash has an empty first segment. -/
def segments (path : String) : List String :=
  (splitSlash path.toList).map String.ofList

/-- Whether a path begins at the root. -/
def isAbsolute (path : String) : Bool :=
  path.toList.head? == some '/'

/-- Whether a segment stays where it is. -/
def isIdle (segment : String) : Bool :=
  segment == "" || segment == "."

/-- Drop the idle segments at the end, but not the first segment. -/
def dropIdleEnd : List String → List String
  | [] => []
  | first :: rest => first :: (rest.reverse.dropWhile isIdle).reverse

/-- The path of the given segments. -/
def ofSegments : List String → String
  | [""] => "/"
  | segments => "/".intercalate segments

/-- The path without its last segment; the root and the empty path have none. -/
def parent? (path : String) : Option String :=
  match dropIdleEnd (segments path) with
  | [] | [""] => none
  | kept => some (ofSegments (dropIdleEnd kept.dropLast))

/-- The last segment of a path, if it is the name of something. -/
def fileName? (path : String) : Option String :=
  (dropIdleEnd (segments path)).getLast?.filter fun name => !isIdle name && name != ".."

/-- A name without its last extension: what stands before its last point, unless that is nothing. -/
def stemOf (name : String) : String :=
  match (name.toList.reverse.dropWhile (· ≠ '.')).drop 1 with
  | [] => name
  | stem => String.ofList stem.reverse

/-- The last segment of a path without its extension. -/
def fileStem? (path : String) : Option String :=
  (fileName? path).map stemOf

/-- A path inside a directory. An absolute path stays as it is. -/
def join (directory path : String) : String :=
  if isAbsolute path then path
  else
    match directory.toList.getLast? with
    | none => path
    | some '/' => directory ++ path
    | some _ => directory ++ "/" ++ path

/-- A path, its parent, the parent of that, and so on, at most `limit` of them. -/
def ancestorsUpTo : Nat → String → List String
  | 0, _ => []
  | limit + 1, path =>
    path :: match parent? path with
      | some above => ancestorsUpTo limit above
      | none => []

/-- A path, its parent, the parent of that, and so on. Each has fewer characters than the one before
it. -/
def ancestors (path : String) : List String :=
  ancestorsUpTo (path.length + 1) path

end AbiTypings.Path
