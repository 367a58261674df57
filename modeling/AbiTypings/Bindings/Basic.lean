import AbiTypings.EventFilter
import AbiTypings.Method

/-!
# Bindings

The bindings of a contract are everything that its typings are written from: its methods, the
filters of its events and the records that both refer to, for one dialect.
-/

namespace AbiTypings

/-- What bindings are asked for. -/
structure Options where
  dialect : Dialect
  /-- What the names of the fixed types begin with. -/
  start : Option String := none
  /-- The module to import the client library from, in place of the usual one. -/
  library : Option String := none
  deriving DecidableEq, Repr

namespace Options

/-- A text that is not blank. -/
def notBlank (s : String) : Option String :=
  if Text.allBlank s then none else some s

/-- Let the names of the fixed types begin with a text. A blank text is none. -/
def withStart (options : Options) (start : String) : Options :=
  { options with start := notBlank start }

/-- Import the client library from a module. A blank name is none. -/
def withLibrary (options : Options) (source : String) : Options :=
  { options with library := notBlank source }

end Options

/-- The bindings of a contract. -/
structure Bindings where
  dialect : Dialect
  library : Option String
  names : ModuleNames
  /-- The names of the methods, repeated names included. -/
  methodNames : List String
  /-- The names of the events, repeated names included. -/
  eventNames : List String
  records : List Record
  events : List EventFilter
  methods : List Method
  deriving DecidableEq, Repr

namespace Bindings

/-- The record of a name. -/
def record? (bindings : Bindings) (name : String) : Option Record :=
  bindings.records.find? (·.name == name)

/-- The first method of a name. -/
def method? (bindings : Bindings) (name : String) : Option Method :=
  bindings.methods.find? (·.name == name)

/-- Drop the names that have occurred before. -/
def firstOccurrences (seen : List String) : List String → List String
  | [] => []
  | name :: rest =>
    if seen.contains name then firstOccurrences seen rest
    else name :: firstOccurrences (name :: seen) rest

/-- The names of the methods, each once, in the order of their first occurrences. -/
def distinctMethodNames (bindings : Bindings) : List String :=
  firstOccurrences [] bindings.methodNames

end Bindings
end AbiTypings
