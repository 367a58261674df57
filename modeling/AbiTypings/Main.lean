import AbiTypings.CommandLine.Command

/-!
# The program

Runs a command on the files of the system, prints its output and reports its failure.
-/

namespace AbiTypings

/-- The failure of an operation of the system. -/
def FileError.ofSystem : IO.Error → FileError
  | .noFileOrDirectory .. => .notFound
  | .alreadyExists .. => .alreadyExists
  | .inappropriateType _ code _ => if code = 20 then .notDirectory else .isDirectory
  | e => .other (toString e)

/-- Do something with a file, with its failure as a value. -/
def attemptSystem {α : Type} (action : IO α) : IO (Except FileError α) := do
  match ← action.toBaseIO with
  | .ok a => return .ok a
  | .error e => return .error (FileError.ofSystem e)

/-- Read a text file. -/
def readTextFile (path : String) : IO (Except FileError String) := do
  match ← attemptSystem (IO.FS.readBinFile path) with
  | .error e => return .error e
  | .ok bytes =>
    match String.fromUTF8? bytes with
    | some text => return .ok text
    | none => return .error (.other "stream did not contain valid UTF-8")

/-- Access to the files of the system. -/
def systemFiles : FileAccess IO where
  readFile := readTextFile
  writeFile path text := attemptSystem (IO.FS.writeFile path text)
  makeDirectory path := attemptSystem (IO.FS.createDir path)
  isDirectory path := do return ← ((← IO.currentDir) / path).isDir
  isPresent path := do return ← ((← IO.currentDir) / path).pathExists

end AbiTypings

/-- Run the program. -/
def main (arguments : List String) : IO UInt32 := do
  let outcome ← AbiTypings.CommandLine.run AbiTypings.systemFiles arguments
  IO.print outcome.output
  IO.eprint outcome.report
  return outcome.exitCode
