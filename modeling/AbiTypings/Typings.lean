import AbiTypings.ModuleStyle
import AbiTypings.Bindings.Basic

/-!
# Typings modules

The module of a contract's bindings: its imports and the type of the contract's context, the names
of its methods and events, one interface for each record, the interface of event filters, and the
interface of the contract. Parts are separated by blank lines.
-/

namespace AbiTypings

open Layout

/-- The module that publishes the contexts of all dialects. -/
def contextModule : String := "@abi-toolkit/converter-typescript"

/-! ## Imports -/

/-- Names imported from one module. -/
structure Import where
  names : List String
  source : String
  deriving DecidableEq, Repr

/-- The line of an import, which begins with a keyword or two. -/
def Import.text (keyword : String) (i : Import) : String :=
  keyword ++ " \x7b " ++ ", ".intercalate i.names ++ " \x7d from '" ++ i.source ++ "';"

/-- The companion types that modules of both ethers dialects use. -/
def ethersCompanionNames : List String :=
  ["EventFilter", "ContractTransactionOverrides", "ContractCallOverrides"]

/-- What a typings module imports: from its client library, from the module of contexts, and from
the companion module. -/
def typingsImports (dialect : Dialect) (library companion : String) : List Import :=
  match dialect with
  | .web3 => [
      ⟨["EventData", "EventResponse", "Web3ContractContext"], library⟩,
      ⟨["MethodPayableReturnContext", "MethodConstantReturnContext", "MethodReturnContext"],
        companion⟩]
  | .ethersV5 => [
      ⟨["ContractTransaction", "BigNumber", "BigNumberish", "BytesLike"], library⟩,
      ⟨["EthersContractContextV5"], contextModule⟩,
      ⟨ethersCompanionNames, companion⟩]
  | .ethersV6 => [
      ⟨["ContractTransactionResponse", "BigNumberish", "BytesLike"], library⟩,
      ⟨["EthersContractContextV6"], contextModule⟩,
      ⟨ethersCompanionNames, companion⟩]

/-- The module that the client library is imported from. -/
def Bindings.libraryModule (bindings : Bindings) : String :=
  bindings.library.getD bindings.dialect.profile.defaultModule

/-- What the module of bindings imports. -/
def Bindings.imports (bindings : Bindings) (style : ModuleStyle) : List Import :=
  typingsImports bindings.dialect bindings.libraryModule style.companionModule

/-! ## Parts of a module -/

/-- The union of quoted words, which is `never` when there are none. -/
def quotedUnion (words : List String) : String :=
  if words.isEmpty then "never"
  else " | ".intercalate (words.map fun word => "'" ++ word ++ "'")

/-- The type of the contract's context. -/
def contextLine (bindings : Bindings) : String :=
  let names := bindings.names
  "export type " ++ names.contractContext ++ " = " ++ bindings.dialect.profile.contextType ++ "<"
    ++ ", ".intercalate [names.contract, names.methodNames, names.eventsContext, names.events]
    ++ ">;"

/-- The imports and the type of the contract's context. -/
def headerSteps (bindings : Bindings) (style : ModuleStyle) : List Step :=
  (bindings.imports style).map (fun i => .line (i.text style.importKeyword))
    ++ [.blank, .line (contextLine bindings)]

/-- The names of the methods, as a union and as the keys of a map. -/
def methodNameSteps (bindings : Bindings) : List Step :=
  let names := bindings.names
  [.line ("export type " ++ names.methodNames ++ " = "
      ++ quotedUnion bindings.distinctMethodNames ++ ";"),
    .typeAlias names.methodNameMap [.line ("[key in " ++ names.methodNames ++ "]: string;")]]

/-- The names of the events, as a union. -/
def eventNameSteps (bindings : Bindings) : List Step :=
  [.line ("export type " ++ bindings.names.events ++ " = " ++ quotedUnion bindings.eventNames
    ++ ";")]

/-- The interface of a record. -/
def recordStep (record : Record) : Step :=
  .interface record.name (record.fields.map fun field => .line (field.text ++ ";"))

/-- The interface of the event filters. -/
def eventsContextStep (bindings : Bindings) : Step :=
  .interface bindings.names.eventsContext
    (bindings.events.map fun filter => .line (filter.text ++ ";"))

/-- A method of the contract. -/
def methodSteps (documented : Bool) (method : Method) : List Step :=
  (if documented then [.doc method.docs.lines] else []) ++ [.line (method.text ++ ";")]

/-- The interface of the contract. -/
def contractStep (bindings : Bindings) (style : ModuleStyle) : Step :=
  .interface bindings.names.contract (bindings.methods.flatMap (methodSteps style.documented))

/-! ## The module -/

/-- The layout of the module. -/
def typingsSteps (bindings : Bindings) (style : ModuleStyle) : List Step :=
  headerSteps bindings style ++ [.blank] ++ methodNameSteps bindings ++ [.blank]
    ++ eventNameSteps bindings
    ++ bindings.records.flatMap (fun record => [.blank, recordStep record])
    ++ [.blank, eventsContextStep bindings, .blank, contractStep bindings style]

/-- The text of the module. -/
def typingsText (bindings : Bindings) (style : ModuleStyle) : String :=
  render style.margin (typingsSteps bindings style)

end AbiTypings
