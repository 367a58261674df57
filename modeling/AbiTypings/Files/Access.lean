import AbiTypings.Files.Path

/-!
# Access to files

The operations on files that a command needs (`FileAccess`), for any monad that has them, and the
ways in which they fail.
-/

namespace AbiTypings

/-- Why an operation on a file failed. -/
inductive FileError where
  | notFound
  | alreadyExists
  | notDirectory
  | isDirectory
  /-- A failure in the words of the system. -/
  | other (text : String)
  deriving DecidableEq, Repr

/-- What is reported of a failure: the words and the number that the system gives it. -/
def FileError.message : FileError → String
  | notFound => "No such file or directory (os error 2)"
  | alreadyExists => "File exists (os error 17)"
  | notDirectory => "Not a directory (os error 20)"
  | isDirectory => "Is a directory (os error 21)"
  | other text => text

/-- Operations on files, all of which take a path. -/
structure FileAccess (m : Type → Type) where
  readFile : String → m (Except FileError String)
  writeFile : String → String → m (Except FileError Unit)
  /-- Make one directory, whose parent must be there. -/
  makeDirectory : String → m (Except FileError Unit)
  isDirectory : String → m Bool
  /-- Whether there is anything at a path. -/
  isPresent : String → m Bool

namespace FileAccess

variable {m : Type → Type} [Monad m]

/-- Make the first directory of a list that goes upward, and before it those above it that are
missing. The empty path stands for the working directory, which is there. -/
def makeUpward (files : FileAccess m) : List String → m (Except FileError Unit)
  | [] => return .error .notFound
  | path :: above => do
    if path = "" then return .ok ()
    match ← files.makeDirectory path with
    | .ok () => return .ok ()
    | .error .notFound =>
      match ← files.makeUpward above with
      | .error e => return .error e
      | .ok () =>
        match ← files.makeDirectory path with
        | .ok () => return .ok ()
        | .error e => if ← files.isDirectory path then return .ok () else return .error e
    | .error e => if ← files.isDirectory path then return .ok () else return .error e

/-- Make a directory and the missing ones above it. -/
def makeDirectories (files : FileAccess m) (path : String) : m (Except FileError Unit) :=
  files.makeUpward (Path.ancestors path)

end FileAccess
end AbiTypings
