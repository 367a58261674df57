import AbiTypings.Record
import AbiTypings.Param.Basic
import AbiTypings.Text.CamelCase

/-!
# Names

The names that records ask for, and the names of the six fixed types of a module. A record of a
struct is named after the struct; any other record is named after the member it belongs to and the
field it is the type of.
-/

namespace AbiTypings

/-- The name that the record of a composite parameter asks for. -/
def paramRecordName (scope : String) (p : Param) (fieldName : String) (role : Role) : String :=
  match p.structName? with
  | some name => Text.capitalize name ++ role.ending
  | none => Text.capitalize scope ++ Text.capitalize fieldName ++ role.ending

/-- The name that the record of a function's outputs asks for. -/
def outputsRecordName (function : String) : String :=
  Text.capitalize function ++ Role.response.ending

/-- The name that the record of an event asks for. -/
def eventRecordName (event : String) : String :=
  Text.capitalize event ++ Role.event.ending

/-- The names of the fixed types of a module. -/
structure ModuleNames where
  contract : String
  contractContext : String
  methodNames : String
  methodNameMap : String
  events : String
  eventsContext : String
  deriving DecidableEq, Repr

/-- The names that begin with the given text. -/
def ModuleNames.startingWith (start : String) : ModuleNames where
  contract := start ++ "Contract"
  contractContext := start ++ "ContractContext"
  methodNames := start ++ "MethodNames"
  methodNameMap := start ++ "MethodNameMap"
  events := start ++ "Events"
  eventsContext := start ++ "EventsContext"

/-- The six names. -/
def ModuleNames.toList (names : ModuleNames) : List String :=
  [names.contract, names.contractContext, names.methodNames, names.methodNameMap, names.events,
    names.eventsContext]

/-- The names of a module for a chosen beginning, which is put into camel case. -/
def moduleNames (start : Option String) : ModuleNames :=
  .startingWith ((start.map Text.upperCamelCase).getD "")

end AbiTypings
