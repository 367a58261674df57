import AbiTypings.Fault
import AbiTypings.Json.Decode
import AbiTypings.Member.Basic
import AbiTypings.Param.Json

/-!
# Members as JSON

A member is decoded in two steps: first the entry as it is written (`Entry`), and then its meaning
(`Entry.toMember`). Everything in an entry may be left out or null: an entry without a kind is a
function, and an empty name is no name.
-/

namespace AbiTypings

open Json

/-! ## Names -/

/-- The JSON form of a kind is its name. -/
def MemberKind.toJson (kind : MemberKind) : Json := .str kind.text

/-- Decode a kind of members. -/
def MemberKind.ofJson : Json → Decoded MemberKind :=
  asEnum (MemberKind.all.map fun k => (k.text, k))

/-- The JSON form of a mutability is its name. -/
def Mutability.toJson (mutability : Mutability) : Json := .str mutability.text

/-- Decode a mutability. -/
def Mutability.ofJson : Json → Decoded Mutability :=
  asEnum (Mutability.all.map fun m => (m.text, m))

/-- The JSON names of the effects of calls. -/
def CallEffect.jsonName : CallEffect → String
  | payable => "Payable"
  | mutating => "Mutating"
  | readOnly => "ReadOnly"

/-- The JSON form of an effect is its JSON name. -/
def CallEffect.toJson (effect : CallEffect) : Json := .str effect.jsonName

/-- Decode an effect. -/
def CallEffect.ofJson : Json → Decoded CallEffect :=
  asEnum ([CallEffect.payable, .mutating, .readOnly].map fun effect => (effect.jsonName, effect))

/-! ## Members -/

/-- An entry as it is written. -/
structure Entry where
  kind : Option MemberKind := none
  name : Option String := none
  inputs : List Param := []
  outputs : List Param := []
  mutability : Option Mutability := none
  payable : Bool := false
  constant : Bool := false
  anonymous : Bool := false

/-- The members of an entry, in the order of the list form. -/
def Entry.memberNames : List String :=
  ["type", "name", "inputs", "outputs", "stateMutability", "payable", "constant", "anonymous"]

/-- The parameters of an entry. -/
def paramsOfJson : Json → Decoded (List Param)
  | .null => .ok []
  | .arr items => Param.listOfJson items
  | j => expected "a sequence" j

/-- Visit a member of an entry. -/
def Entry.visit (entry : Entry) : String × Json → Decoded Entry
  | ("type", j) => (nullable MemberKind.ofJson j).map fun k => { entry with kind := k }
  | ("name", j) => (nullable asString j).map fun s => { entry with name := s }
  | ("inputs", j) => (paramsOfJson j).map fun ps => { entry with inputs := ps }
  | ("outputs", j) => (paramsOfJson j).map fun ps => { entry with outputs := ps }
  | ("stateMutability", j) =>
    (nullable Mutability.ofJson j).map fun m => { entry with mutability := m }
  | ("payable", j) => (orDefault asBool j).map fun b => { entry with payable := b }
  | ("constant", j) => (orDefault asBool j).map fun b => { entry with constant := b }
  | ("anonymous", j) => (orDefault asBool j).map fun b => { entry with anonymous := b }
  | _ => .ok entry

/-- Decode an entry, which is an object of its members or a list of them. -/
def Entry.ofJson : Json → Decoded Entry
  | .obj members => members.foldlM Entry.visit {}
  | .arr items => do
    let entry ← (Entry.memberNames.zip items).foldlM Entry.visit {}
    noMoreThan 8 items
    return entry
  | j => expected "struct RawMember" j

/-- What an entry declares about a call. -/
def Entry.traits (entry : Entry) : CallTraits :=
  ⟨entry.payable, entry.mutability, entry.constant⟩

/-- The name of an entry, unless it is empty. -/
def Entry.properName (entry : Entry) : Option String :=
  entry.name.filter (· ≠ "")

/-- The meaning of an entry. Functions and events must have a name, and constructors must not. -/
def Entry.toMember (entry : Entry) : Except DocumentFault Member :=
  match entry.kind.getD .function, entry.properName with
  | .constructor, some name => .error (.namedConstructor name)
  | .constructor, none => .ok (.constructor entry.inputs entry.traits)
  | .function, some name => .ok (.function name entry.inputs entry.outputs entry.traits)
  | .function, none => .error .unnamedFunction
  | .event, some name => .ok (.event name entry.inputs entry.anonymous)
  | .event, none => .error .unnamedEvent
  | kind, name => .ok (.nonCallable kind name)

/-- Decode a member: the entry as it is written, and then its meaning. -/
def Member.ofJson (j : Json) : Decoded Member := do
  let entry ← Entry.ofJson j
  match entry.toMember with
  | .ok member => .ok member
  | .error fault => .error (.refused (Fault.document fault).message)

end AbiTypings
