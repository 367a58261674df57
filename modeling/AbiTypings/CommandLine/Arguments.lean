import AbiTypings.ModuleStyle
import AbiTypings.Bindings.Basic

/-!
# Arguments

Arguments are read against the list of the options that a command knows. An option is given by its
long name (`--name value`, `--name=value`) or its short one (`-n value`, `-nvalue`, `-n=value`), and
short ones may be bundled (`-vn value`). Options and the one positional argument may come in any
order; two hyphens end the options. It is a usage error to repeat an option, to give a value to a
flag, to leave a value out, to give a value that the option does not accept, or to put an argument
that begins with a hyphen in the place of a value.
-/

namespace AbiTypings.CommandLine

/-- Why reading the arguments stopped. -/
inductive Stop where
  /-- The arguments do not follow the usage. -/
  | usage
  /-- Help was asked for. -/
  | help
  deriving DecidableEq, Repr

/-! ## Options -/

/-- What an option stands for. -/
inductive OptionKind where
  /-- An option without a value. -/
  | flag
  /-- Asking for help. -/
  | help
  | text
  | path
  | dialect
  deriving DecidableEq, Repr

/-- Whether an option has a value. -/
def OptionKind.takesValue : OptionKind → Bool
  | flag | help => false
  | text | path | dialect => true

/-- Whether a value is accepted. A path must not be empty. -/
def OptionKind.accepts (value : String) : OptionKind → Bool
  | flag | help => false
  | text => true
  | path => value != ""
  | dialect => (Dialect.ofName value).isOk

/-- An option that a command knows. -/
structure KnownOption where
  long : String
  short : Option Char
  kind : OptionKind
  deriving DecidableEq, Repr

/-! ## What was given -/

/-- What was given so far. -/
structure Given where
  positional : Option String := none
  values : List (String × String) := []
  flags : List String := []
  deriving DecidableEq, Repr

namespace Given

/-- The value of an option. -/
def value? (given : Given) (name : String) : Option String :=
  given.values.lookup name

/-- Whether a flag was given. -/
def hasFlag (given : Given) (name : String) : Bool :=
  given.flags.contains name

/-- Take a value for an option. -/
def addValue (given : Given) (option : KnownOption) (value : String) : Except Stop Given :=
  if (given.value? option.long).isSome || !option.kind.accepts value then .error .usage
  else .ok { given with values := given.values ++ [(option.long, value)] }

/-- Take an option without a value. -/
def addFlag (given : Given) (option : KnownOption) : Except Stop Given :=
  if option.kind = .help then .error .help
  else if given.hasFlag option.long then .error .usage
  else .ok { given with flags := given.flags ++ [option.long] }

/-- Take the positional argument, which is a path. -/
def addPositional (given : Given) (argument : String) : Except Stop Given :=
  if given.positional.isSome || !OptionKind.path.accepts argument then .error .usage
  else .ok { given with positional := some argument }

end Given

/-! ## Reading -/

/-- Whether an argument may be the value of an option before it. -/
def isPlainValue (argument : String) : Bool :=
  match argument.toList with
  | '-' :: _ :: _ => false
  | _ => true

/-- A long option, without its hyphens. Gives the option that waits for its value, if any. -/
def readLong (known : List KnownOption) (given : Given) (cs : List Char) :
    Except Stop (Given × Option KnownOption) :=
  let name := String.ofList (cs.takeWhile (· ≠ '='))
  let value := (cs.dropWhile (· ≠ '=')).tail?.map String.ofList
  match known.find? (·.long == name) with
  | none => .error .usage
  | some option =>
    match option.kind.takesValue, value with
    | true, some value => (given.addValue option value).map (·, none)
    | true, none => .ok (given, some option)
    | false, some _ => .error .usage
    | false, none => (given.addFlag option).map (·, none)

/-- A bundle of short options, without its hyphen. Gives the option that waits for its value, if
any. -/
def readShort (known : List KnownOption) (given : Given) :
    List Char → Except Stop (Given × Option KnownOption)
  | [] => .ok (given, none)
  | c :: cs =>
    match known.find? (·.short == some c) with
    | none => .error .usage
    | some option =>
      if option.kind.takesValue then
        match cs with
        | [] => .ok (given, some option)
        | '=' :: value => (given.addValue option (String.ofList value)).map (·, none)
        | value => (given.addValue option (String.ofList value)).map (·, none)
      else
        match given.addFlag option with
        | .ok given => readShort known given cs
        | .error stop => .error stop

/-- Where the reader of arguments is. -/
inductive Awaiting where
  | anything
  /-- The value of an option. -/
  | value (option : KnownOption)
  /-- A positional argument, after the end of the options. -/
  | positional
  deriving DecidableEq, Repr

/-- Read one argument. -/
def readArgument (known : List KnownOption) (given : Given) (awaiting : Awaiting)
    (argument : String) : Except Stop (Given × Awaiting) :=
  match awaiting with
  | .value option =>
    if isPlainValue argument then (given.addValue option argument).map (·, .anything)
    else .error .usage
  | .positional => (given.addPositional argument).map (·, .positional)
  | .anything =>
    let next (result : Given × Option KnownOption) : Given × Awaiting :=
      (result.1, match result.2 with
        | some option => .value option
        | none => .anything)
    match argument.toList with
    | ['-', '-'] => .ok (given, .positional)
    | '-' :: '-' :: cs => (readLong known given cs).map next
    | '-' :: c :: cs => (readShort known given (c :: cs)).map next
    | _ => (given.addPositional argument).map (·, .anything)

/-- Read arguments in order. -/
def readArguments (known : List KnownOption) (given : Given) (awaiting : Awaiting) :
    List String → Except Stop Given
  | [] =>
    match awaiting with
    | .value _ => .error .usage
    | _ => .ok given
  | argument :: rest =>
    match readArgument known given awaiting argument with
    | .ok (given, awaiting) => readArguments known given awaiting rest
    | .error stop => .error stop

/-! ## Commands -/

/-- Where the modules of a document go. -/
structure Destination where
  directory : Option String
  /-- The name of the typings module, in place of that of the document. -/
  name : Option String
  makeDirectory : Bool
  preventOverwrite : Bool
  deriving DecidableEq, Repr

/-- What the program is asked to do. -/
inductive Invocation where
  | version
  | generate (input : String) (options : Options) (style : ModuleStyle)
      (destination : Destination) (verbose : Bool)
  | validate (input : String) (dialect : Dialect) (verbose : Bool)
  | inspect (input : String) (dialect : Dialect) (verbose : Bool)
  deriving DecidableEq, Repr

/-- The options of all commands. -/
def sharedOptions : List KnownOption := [
  ⟨"dialect", some 'd', .dialect⟩,
  ⟨"verbose", some 'v', .flag⟩,
  ⟨"help", some 'h', .help⟩]

/-- The options of `generate`. -/
def generateOptions : List KnownOption := sharedOptions ++ [
  ⟨"output-dir", some 'o', .path⟩,
  ⟨"name", some 'n', .text⟩,
  ⟨"prefix", none, .text⟩,
  ⟨"import-alias", none, .text⟩,
  ⟨"make-output-dir", none, .flag⟩,
  ⟨"prevent-overwrite", none, .flag⟩,
  ⟨"no-docs", none, .flag⟩,
  ⟨"type-only-imports", none, .flag⟩]

/-- The document of a command, which must be given. -/
def Given.input (given : Given) : Except Stop String :=
  match given.positional with
  | some path => .ok path
  | none => .error .usage

/-- The dialect of a command; web3 unless another one is chosen. -/
def Given.dialect (given : Given) : Except Stop Dialect :=
  match given.value? "dialect" with
  | none => .ok .web3
  | some name => (Dialect.ofName name).mapError fun _ => .usage

/-- What `generate` is asked to do. -/
def Given.toGenerate (given : Given) : Except Stop Invocation := do
  let input ← given.input
  let dialect ← given.dialect
  let options : Options := {
    dialect
    start := (given.value? "prefix").bind Options.notBlank
    library := (given.value? "import-alias").bind Options.notBlank }
  let style : ModuleStyle := {
    documented := !given.hasFlag "no-docs"
    typeOnly := given.hasFlag "type-only-imports" }
  let destination : Destination := {
    directory := given.value? "output-dir"
    name := given.value? "name"
    makeDirectory := given.hasFlag "make-output-dir"
    preventOverwrite := given.hasFlag "prevent-overwrite" }
  return .generate input options style destination (given.hasFlag "verbose")

/-- What a command that only reads is asked to do. -/
def Given.toReading (command : String → Dialect → Bool → Invocation) (given : Given) :
    Except Stop Invocation := do
  let input ← given.input
  let dialect ← given.dialect
  return command input dialect (given.hasFlag "verbose")

/-- The commands, which help can be asked about. -/
def commandNames : List String := ["generate", "validate", "inspect", "help"]

/-- What the command `help` is asked to do: it takes the name of at most one command. -/
def Invocation.ofHelp : List String → Except Stop Invocation
  | [] => .error .help
  | [name] => if commandNames.contains name then .error .help else .error .usage
  | _ => .error .usage

/-- What is asked for without a command. -/
def Invocation.ofLeading (argument : String) : Except Stop Invocation :=
  match argument.toList with
  | '-' :: 'V' :: _ => .ok .version
  | '-' :: 'h' :: _ => .error .help
  | _ =>
    if argument = "--version" then .ok .version
    else if argument = "--help" then .error .help
    else .error .usage

/-- Read the arguments of the program. -/
def Invocation.ofArguments : List String → Except Stop Invocation
  | [] => .error .usage
  | command :: rest =>
    if command = "generate" then
      (readArguments generateOptions {} .anything rest).bind Given.toGenerate
    else if command = "validate" then
      (readArguments sharedOptions {} .anything rest).bind (Given.toReading .validate)
    else if command = "inspect" then
      (readArguments sharedOptions {} .anything rest).bind (Given.toReading .inspect)
    else if command = "help" then Invocation.ofHelp rest
    else Invocation.ofLeading command

end AbiTypings.CommandLine
