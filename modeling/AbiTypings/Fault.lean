import AbiTypings.Json.Decode

/-!
# Errors

What can be wrong with a document, a dialect name or a parameter. A type that is not supported is
first reported on its own, and then gets the place where it was met (`Fault.at`); the first place
stays.
-/

namespace AbiTypings

/-- Where something is wrong: a member and a path inside it such as `inputs[1].components[0]`. -/
structure Location where
  member : String
  path : String
  deriving DecidableEq, Repr

/-- What is wrong with a document. -/
inductive DocumentFault where
  | notJson
  | abiNotList
  | abiMissing
  | notMembers
  | malformedMember (cause : Json.DecodeError)
  | namedConstructor (name : String)
  | unnamedFunction
  | unnamedEvent
  /-- A fault in the words of the caller. -/
  | other (reason : String)
  deriving DecidableEq, Repr

/-- What is wrong with a parameter whose type is understood. -/
inductive ParameterFault where
  /-- A tuple without components. -/
  | componentsMissing (tag : String)
  /-- Components of something that is no tuple. -/
  | componentsUnexpected (tag : String)
  deriving DecidableEq, Repr

/-- The errors of reading and compiling a contract interface. -/
inductive Fault where
  | document (fault : DocumentFault)
  | dialect (name : String)
  | type (tag : String) (location : Option Location)
  | parameter (location : Location) (fault : ParameterFault)
  deriving DecidableEq, Repr

/-! ## Messages -/

/-- A place as it is reported: the member, and the path in parentheses. -/
def Location.text (location : Location) : String :=
  location.member ++ " (" ++ location.path ++ ")"

/-- What is reported of a fault of a document. -/
def DocumentFault.message : DocumentFault → String
  | notJson => "provided ABI content is not valid JSON"
  | abiNotList => "`abi` field is not a list of members"
  | abiMissing => "object has no `abi` list of members"
  | notMembers => "expected a list of members or an object with an `abi` list"
  | malformedMember cause => "malformed member: " ++ cause.message
  | namedConstructor name => "constructor entries must not be named, got `" ++ name ++ "`"
  | unnamedFunction => "function entry without a name"
  | unnamedEvent => "event entry without a name"
  | other reason => reason

/-- What is reported of a fault of a parameter. -/
def ParameterFault.message : ParameterFault → String
  | componentsMissing tag => "`" ++ tag ++ "` carries no components"
  | componentsUnexpected tag => "components given for non-tuple type `" ++ tag ++ "`"

/-- What is reported of an error, with its place if that is known. -/
def Fault.message : Fault → String
  | document fault => "Invalid input document: " ++ fault.message
  | dialect name =>
    "Unsupported dialect: " ++ name ++ " (expected one of web3, ethers_v5, ethers_v6)"
  | type tag none => "Unsupported type `" ++ tag ++ "`"
  | type tag (some location) =>
    "Unsupported type `" ++ tag ++ "` in " ++ location.text
  | parameter location fault =>
    "Invalid parameter in " ++ location.text ++ ": " ++ fault.message

/-! ## Places -/

/-- Say where a type was met. -/
def Fault.at (location : Location) : Fault → Fault
  | type tag none => type tag (some location)
  | error => error

end AbiTypings
