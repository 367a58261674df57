import AbiTypings.Fault
import AbiTypings.Text.Blank
import AbiTypings.AbiType.Basic

/-!
# Dialects

The client libraries that typings are generated for, and everything that differs between them
(`Profile`): the tokens of elementary types, the way calls return their result, the trailing
overrides parameter, and the form of event filters.
-/

namespace AbiTypings

/-- The client library that typings are generated for. -/
inductive Dialect where
  | web3
  | ethersV5
  | ethersV6
  deriving DecidableEq, Repr

namespace Dialect

/-- All dialects. -/
def all : List Dialect := [web3, ethersV5, ethersV6]

/-- The name that a dialect is selected by. -/
def name : Dialect → String
  | web3 => "web3"
  | ethersV5 => "ethers_v5"
  | ethersV6 => "ethers_v6"

/-- The form of a name that selections are compared in: without blanks around it, ASCII letters in
lower case, and underscores for hyphens. -/
def normalName (s : String) : String :=
  String.ofList ((Text.trimChars s.toList).map fun c => if c = '-' then '_' else c.toLower)

/-- Select a dialect by its name. -/
def ofName (s : String) : Except Fault Dialect :=
  match all.find? (·.name == normalName s) with
  | some dialect => .ok dialect
  | none => .error (.dialect s)

/-- The JSON form of a dialect is its name, exactly. -/
def toJson (dialect : Dialect) : Json := .str dialect.name

/-- Decode a dialect, whose name must be exact here. -/
def ofJson : Json → Json.Decoded Dialect :=
  Json.asEnum (all.map fun dialect => (dialect.name, dialect))

end Dialect

/-! ## Profiles -/

/-- How the trailing overrides parameter is spelled. -/
structure OverridesStyle where
  paramName : String
  /-- Its type in calls that change state. -/
  transactionType : String
  /-- Its type in calls that only read. -/
  callType : String
  deriving DecidableEq, Repr

/-- How the result of a call is wrapped. -/
inductive ResultStyle where
  /-- Promises: of the value for reads, and of the transaction for all other calls. -/
  | promise (transaction : String)
  /-- One context type for each effect that calls have. -/
  | context (readOnly mutating payable : String)
  deriving DecidableEq, Repr

/-- How an event filter is written. -/
inductive FilterStyle where
  /-- The inputs in order, as in `Transfer(from: string, to: string): EventFilter`. -/
  | positional (returns : String)
  /-- One object of options, which holds the indexed inputs, and a callback. -/
  | optionsObject (returns eventData : String)
  deriving DecidableEq, Repr

/-- What a dialect decides. -/
structure Profile where
  integerInput : String
  integerOutput : String
  bytesInput : String
  bytesOutput : String
  /-- Whether the fields of a response can also be reached by their positions. -/
  positionalAliases : Bool
  overrides : Option OverridesStyle
  wrapper : ResultStyle
  eventFilter : FilterStyle
  contextType : String
  /-- The module that the client library is imported from. -/
  defaultModule : String
  deriving DecidableEq, Repr

/-- The overrides of both ethers dialects. -/
def ethersOverrides : OverridesStyle where
  paramName := "overrides"
  transactionType := "ContractTransactionOverrides"
  callType := "ContractCallOverrides"

/-- What each dialect decides. -/
def Dialect.profile : Dialect → Profile
  | web3 => {
      integerInput := "string"
      integerOutput := "string"
      bytesInput := "string | number[]"
      bytesOutput := "string"
      positionalAliases := false
      overrides := none
      wrapper := .context "MethodConstantReturnContext" "MethodReturnContext"
        "MethodPayableReturnContext"
      eventFilter := .optionsObject "EventResponse" "EventData"
      contextType := "Web3ContractContext"
      defaultModule := "@abi-toolkit/converter-typescript" }
  | ethersV5 => {
      integerInput := "BigNumberish"
      integerOutput := "BigNumber"
      bytesInput := "BytesLike"
      bytesOutput := "string"
      positionalAliases := true
      overrides := some ethersOverrides
      wrapper := .promise "ContractTransaction"
      eventFilter := .positional "EventFilter"
      contextType := "EthersContractContextV5"
      defaultModule := "ethers" }
  | ethersV6 => {
      integerInput := "BigNumberish"
      integerOutput := "bigint"
      bytesInput := "BytesLike"
      bytesOutput := "string"
      positionalAliases := true
      overrides := some ethersOverrides
      wrapper := .promise "ContractTransactionResponse"
      eventFilter := .positional "EventFilter"
      contextType := "EthersContractContextV6"
      defaultModule := "ethers" }

/-! ## Tokens -/

/-- The side of a call that a value is on. Inputs take looser types than what outputs return. -/
inductive Side where
  | input
  | output
  deriving DecidableEq, Repr

/-- The token of an elementary type, for both sides, when the type has one: all integer widths share
a token, and fixed-point numbers have none. -/
def Elementary.token? (profile : Profile) (side : Side) : Elementary → Option String
  | bool => some "boolean"
  | address | string | function => some "string"
  | uint _ | int _ =>
    match side with
    | .input => some profile.integerInput
    | .output => some profile.integerOutput
  | bytes | fixedBytes _ =>
    match side with
    | .input => some profile.bytesInput
    | .output => some profile.bytesOutput
  | fixed .. => none

/-- The token of an elementary type; the error names the type in its full spelling. -/
def Elementary.token (profile : Profile) (side : Side) (type : Elementary) :
    Except Fault String :=
  match type.token? profile side with
  | some token => .ok token
  | none => .error (.type type.text none)

end AbiTypings
