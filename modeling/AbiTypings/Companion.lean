import AbiTypings.Dialect
import AbiTypings.ModuleStyle

/-!
# Companion modules

The types that every typings module of a dialect imports. They are the same for all contracts, and
have a module of their own beside the typings.
-/

namespace AbiTypings

open Layout

/-- The file name of the companion module. -/
def companionFile : String := "common.types.ts"

/-- A property of a companion type. -/
structure Property where
  line : String
  doc : Option String := none
  deriving DecidableEq, Repr

/-- A companion type. -/
structure CompanionType where
  name : String
  properties : List Property
  deriving DecidableEq, Repr

/-- What a companion module is written for. Where no library is given, the dialect's usual one is
meant. -/
structure Companion where
  dialect : Dialect
  library : Option String
  typeOnly : Bool
  deriving DecidableEq, Repr

/-! ## Companion types -/

/-- A property without documentation. -/
def Property.plain (line : String) : Property := { line }

/-- A property with its documentation. -/
def Property.documented (doc line : String) : Property := { line, doc := some doc }

/-- The companion types of the ethers dialects. `amount` is the type of amounts of money. -/
def ethersTypes (amount : String) : List CompanionType := [
  ⟨"EventFilter", [
    .plain "address?: string;",
    .plain "topics?: string[];",
    .plain "fromBlock?: string | number;",
    .plain "toBlock?: string | number;"]⟩,
  ⟨"ContractTransactionOverrides", [
    .documented "The maximum units of gas for the transaction to use" "gasLimit?: number;",
    .documented "The price (in wei) per unit of gas"
      ("gasPrice?: " ++ amount ++ " | string | number | Promise<any>;"),
    .documented "The nonce to use in the transaction" "nonce?: number;",
    .documented "The amount to send with the transaction (i.e. msg.value)"
      ("value?: " ++ amount ++ " | string | number | Promise<any>;"),
    .documented "The chain ID (or network ID) to use" "chainId?: number;"]⟩,
  ⟨"ContractCallOverrides", [
    .documented "The address to execute the call as" "from?: string;",
    .documented "The maximum units of gas for the transaction to use" "gasLimit?: number;"]⟩]

/-- The companion types of web3. -/
def web3Types : List CompanionType := [
  ⟨"CallOptions", [
    .plain "from?: string;",
    .plain "gasPrice?: string;",
    .plain "gas?: number;"]⟩,
  ⟨"SendOptions", [
    .plain "from: string;",
    .plain "value?: number | string | BN | BigNumber;",
    .plain "gasPrice?: string;",
    .plain "gas?: number;"]⟩,
  ⟨"EstimateGasOptions", [
    .plain "from?: string;",
    .plain "value?: number | string | BN | BigNumber;",
    .plain "gas?: number;"]⟩,
  ⟨"MethodPayableReturnContext", [
    .plain "send(options: SendOptions): PromiEvent<TransactionReceipt>;",
    .plain ("send(options: SendOptions, callback: (error: Error, result: any) => void): "
      ++ "PromiEvent<TransactionReceipt>;"),
    .plain "estimateGas(options: EstimateGasOptions): Promise<number>;",
    .plain ("estimateGas(options: EstimateGasOptions, "
      ++ "callback: (error: Error, result: any) => void): Promise<number>;"),
    .plain "encodeABI(): string;"]⟩,
  ⟨"MethodConstantReturnContext<TCallReturn>", [
    .plain "call(): Promise<TCallReturn>;",
    .plain "call(options: CallOptions): Promise<TCallReturn>;",
    .plain ("call(options: CallOptions, "
      ++ "callback: (error: Error, result: TCallReturn) => void): Promise<TCallReturn>;"),
    .plain "encodeABI(): string;"]⟩]

/-- The companion types of a dialect. -/
def companionTypes : Dialect → List CompanionType
  | .web3 => web3Types
  | .ethersV5 => ethersTypes "BigNumber"
  | .ethersV6 => ethersTypes "bigint"

/-! ## The module -/

namespace Companion

/-- The import lines. -/
def imports (companion : Companion) : List String :=
  let keyword := ModuleStyle.importWords companion.typeOnly
  let library := companion.library.getD companion.dialect.profile.defaultModule
  let named (names source : String) : String :=
    keyword ++ " \x7b " ++ names ++ " \x7d from '" ++ source ++ "';"
  match companion.dialect with
  | .web3 => [
      named "BigNumber" "bignumber.js",
      keyword ++ " BN from 'bn.js';",
      named "PromiEvent, TransactionReceipt" library]
  | .ethersV5 => [named "BigNumber" library]
  | .ethersV6 => []

/-- A property and its documentation. -/
def propertySteps (property : Property) : List Step :=
  (property.doc.toList.map fun doc => .doc [doc]) ++ [.line property.line]

/-- The alias of a companion type. -/
def typeStep (type : CompanionType) : Step :=
  .typeAlias type.name (type.properties.flatMap propertySteps)

/-- The layout of the module. -/
def steps (companion : Companion) : List Step :=
  let imports := companion.imports.map Step.line
  imports ++ (if imports.isEmpty then [] else [.blank])
    ++ ((companionTypes companion.dialect).map typeStep).intersperse .blank
    ++ (if companion.dialect = .web3 then
          [.blank, .line "export type MethodReturnContext = MethodPayableReturnContext;"]
        else [])

/-- The text of the module at the usual margin. -/
def text (companion : Companion) : String :=
  render .usual companion.steps

end Companion

/-- The text of the companion module in a style. -/
def companionText (dialect : Dialect) (library : Option String) (style : ModuleStyle) :
    String :=
  render style.margin (Companion.steps ⟨dialect, library, style.typeOnly⟩)

end AbiTypings
