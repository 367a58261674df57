import AbiTypings.CommandLine.Arguments
import AbiTypings.Files.Access
import AbiTypings.Modules

/-!
# Commands

What the program does for its arguments: it prints, reads and writes files, and may fail. A failure
has a message, and a cause when a file was the reason. Nothing is written before a document has its
bindings.
-/

namespace AbiTypings.CommandLine

/-- Why a command failed. -/
structure Failure where
  message : String
  cause : Option FileError := none
  deriving DecidableEq, Repr

/-- How a failure is reported. -/
def Failure.report (failure : Failure) : String :=
  "Error: " ++ failure.message ++ "\n" ++
    match failure.cause with
    | some cause => "\nCaused by:\n    " ++ cause.message ++ "\n"
    | none => ""

/-- The failure of a command on a document with something wrong in it. -/
def Failure.ofFault (fault : Fault) : Failure := { message := fault.message }

/-- How a run of the program ended. -/
structure Outcome where
  exitCode : UInt32
  output : String := ""
  report : String := ""
  deriving DecidableEq, Repr

variable {m : Type → Type} [Monad m]

/-- What a command does: it prints, and may fail after that. -/
abbrev Running (m : Type → Type) (α : Type) := ExceptT Failure (StateT String m) α

/-- Print lines. -/
def say (lines : List String) : Running m Unit :=
  modify (· ++ Layout.unlines lines)

/-- Do something with files. -/
def perform {α : Type} (action : m α) : Running m α :=
  ExceptT.lift (StateT.lift action)

/-- Do something with files that may fail; `message` says what it was. -/
def attempt {α : Type} (message : String) (action : m (Except FileError α)) : Running m α := do
  match ← perform action with
  | .ok a => return a
  | .error e => throw { message, cause := some e }

/-- Fail with a failure. -/
def orFail {α : Type} : Except Failure α → Running m α
  | .ok a => return a
  | .error failure => throw failure

/-! ## Reading -/

/-- Read a document into its members. -/
def load (files : FileAccess m) (input : String) : Running m (List Member) := do
  let document ← attempt ("failed to read " ++ input) (files.readFile input)
  orFail ((Member.listOfText document).mapError .ofFault)

/-- Read a document into its members and their bindings. -/
def loadBindings (files : FileAccess m) (input : String) (options : Options) :
    Running m (List Member × Bindings) := do
  let ms ← load files input
  let bindings ← orFail ((Bindings.ofMembers options ms).mapError .ofFault)
  return (ms, bindings)

/-- The line under a heading. -/
def rule : String := String.ofList (List.replicate 50 '=')

/-! ## Writing modules -/

/-- The directory that modules go to. -/
def Destination.directoryFor (destination : Destination) (input : String) : String :=
  let directory := destination.directory.getD ((Path.parent? input).getD ".")
  if directory = "" then "." else directory

/-- Make sure that the directory for modules is there. -/
def prepareDirectory (files : FileAccess m) (destination : Destination) (input : String) :
    Running m String := do
  let directory := destination.directoryFor input
  unless ← perform (files.isDirectory directory) do
    unless destination.makeDirectory do
      throw { message := "output directory " ++ directory
        ++ " does not exist (pass --make-output-dir to create it)" }
    attempt ("failed to create " ++ directory) (files.makeDirectories directory)
  return directory

/-- The name of the typings module, without its extensions. -/
def Destination.stemFor (destination : Destination) (input : String) : Except Failure String :=
  match destination.name.or (Path.fileStem? input) with
  | some name => .ok name
  | none => .error { message := "cannot derive a file name from " ++ input }

/-- Write one module. -/
def writeModule (files : FileAccess m) (path text : String) : Running m Unit :=
  attempt ("failed to write " ++ path) (files.writeFile path text)

/-- Write both modules of bindings. -/
def writeModules (files : FileAccess m) (bindings : Bindings) (style : ModuleStyle)
    (typingsPath companionPath : String) : Running m Unit := do
  let modules := bindings.modules style
  writeModule files typingsPath modules.typings
  writeModule files companionPath modules.companion

/-- The command `generate`. -/
def runGenerate (files : FileAccess m) (input : String) (options : Options)
    (style : ModuleStyle) (destination : Destination) (verbose : Bool) : Running m Unit := do
  if verbose then
    say [" tsabi generator", rule, " Input: " ++ input, " Dialect: " ++ options.dialect.name, ""]
  let (_, bindings) ← loadBindings files input options
  let directory ← prepareDirectory files destination input
  let stem ← orFail (destination.stemFor input)
  let typingsPath := Path.join directory (stem ++ ".types.ts")
  let companionPath := Path.join directory companionFile
  let skip ←
    if destination.preventOverwrite then perform (files.isPresent typingsPath) else pure false
  if skip then
    say [" WARNING: " ++ typingsPath ++ " already exists, skipping (--prevent-overwrite)"]
  else
    writeModules files bindings style typingsPath companionPath
    say [" SUCCESS: " ++ typingsPath]
    if verbose then
      say ["   Companion: " ++ companionPath,
        "   Declarations: " ++ toString bindings.records.length]

/-! ## Commands that only read -/

/-- The command `validate`. It prints what is wrong with a document, and then fails. -/
def runValidate (files : FileAccess m) (input : String) (dialect : Dialect) (verbose : Bool) :
    Running m Unit := do
  if verbose then
    say [" Validating ABI", rule, " Input: " ++ input, ""]
  try
    let (ms, bindings) ← loadBindings files input { dialect }
    say [" VALID"]
    if verbose then
      say ["   Entries: " ++ toString ms.length,
        "   Members: " ++ toString bindings.methods.length,
        "   Events: " ++ toString bindings.events.length,
        "   Declarations: " ++ toString bindings.records.length]
  catch failure =>
    say [" INVALID", "", "Error:", failure.message]
    throw { message := "Validation failed" }

/-- The lines about a method. -/
def methodLines (verbose : Bool) (method : Method) : List String :=
  [" " ++ method.name ++ " [" ++ method.effect.text ++ "]",
    "     " ++ method.text]
    ++ if verbose then method.docs.lines.map ("     " ++ ·) else []

/-- The lines about an event. -/
def eventLines (filter : EventFilter) : List String :=
  [" " ++ filter.name ++ " [event]", "     " ++ filter.text]

/-- The lines about records. -/
def recordLines (records : List Record) : List String :=
  if records.isEmpty then []
  else ["", "  Declarations:"] ++ records.map fun record =>
    "    " ++ record.name ++ " (" ++ toString record.fields.length ++ " fields)"

/-- The lines about bindings. -/
def bindingsLines (verbose : Bool) (bindings : Bindings) : List String :=
  [" " ++ toString bindings.methods.length ++ " member(s), " ++ toString bindings.events.length
      ++ " event(s), " ++ toString bindings.records.length ++ " declaration(s)", ""]
    ++ bindings.methods.flatMap (methodLines verbose)
    ++ bindings.events.flatMap eventLines
    ++ if verbose then recordLines bindings.records else []

/-- The command `inspect`. -/
def runInspect (files : FileAccess m) (input : String) (dialect : Dialect) (verbose : Bool) :
    Running m Unit := do
  let (_, bindings) ← loadBindings files input { dialect }
  say (bindingsLines verbose bindings)

/-! ## The program -/

/-- The version of the program. -/
def versionText : String := "tsabi 0.1.0\n"

/-- How the program is called. -/
def usageText : String :=
  "Usage: tsabi generate INPUT [OPTIONS]\n"
    ++ "       tsabi validate INPUT [-d DIALECT] [-v]\n"
    ++ "       tsabi inspect INPUT [-d DIALECT] [-v]\n"
    ++ "       tsabi --version\n"

/-- Do what is asked for. -/
def Invocation.perform (files : FileAccess m) : Invocation → Running m Unit
  | version => modify (· ++ versionText)
  | generate input options style destination verbose =>
    runGenerate files input options style destination verbose
  | validate input dialect verbose => runValidate files input dialect verbose
  | inspect input dialect verbose => runInspect files input dialect verbose

/-- Run the program: what it prints, what it reports, and its exit code. -/
def run (files : FileAccess m) (arguments : List String) : m Outcome := do
  match Invocation.ofArguments arguments with
  | .error .usage => return { exitCode := 2, report := usageText }
  | .error .help => return { exitCode := 0, output := usageText }
  | .ok invocation =>
    match ← (invocation.perform files).run.run "" with
    | (.ok (), output) => return { exitCode := 0, output }
    | (.error failure, output) => return { exitCode := 1, output, report := failure.report }

end AbiTypings.CommandLine
