import AbiTypings.Names
import AbiTypings.Registry
import AbiTypings.AbiType.Tag

/-!
# Type tokens

The type of a parameter is written as a token. The token of an elementary type is decided by the
dialect; a composite parameter becomes a record, registered after the records of its components, and
its token is the record's name. Each array dimension adds a pair of brackets.
-/

namespace AbiTypings

/-- Where a parameter stands: its position among its siblings and the path to it. -/
structure Position where
  index : Nat
  path : String
  deriving DecidableEq, Repr

namespace Position

/-- The place of an input of a member. -/
def input (index : Nat) : Position :=
  ⟨index, "inputs[" ++ toString index ++ "]"⟩

/-- The place of an output of a member. -/
def output (index : Nat) : Position :=
  ⟨index, "outputs[" ++ toString index ++ "]"⟩

/-- The place of a component. -/
def component (position : Position) (index : Nat) : Position :=
  ⟨index, position.path ++ ".components[" ++ toString index ++ "]"⟩

end Position

/-- The token of an array of elementary values. A union is put in parentheses, so that the brackets
apply to all of it. -/
def arrayToken (token : String) (dims : List Dimension) : String :=
  if !dims.isEmpty && token.toList.contains '|' then "(" ++ token ++ ")" ++ brackets dims
  else token ++ brackets dims

/-- The token of a parameter without components. Its type must be elementary. -/
def elementaryToken (profile : Profile) (role : Role) (location : Location) (typeTag : String) :
    Except Fault String := do
  let type ← (AbiType.ofTag typeTag).mapError (·.at location)
  match type.base with
  | .elementary elementary =>
    let token ← (elementary.token profile role.side).mapError (·.at location)
    return arrayToken token type.dims
  | .tuple => throw (.parameter location (.componentsMissing typeTag))

/-- What a parameter with components adds to the name of its record. Its type must be a tuple. -/
def compositeBrackets (location : Location) (typeTag : String) : Except Fault String := do
  let type ← (AbiType.ofTag typeTag).mapError (·.at location)
  match type.base with
  | .tuple => return type.brackets
  | .elementary _ => throw (.parameter location (.componentsUnexpected typeTag))

/-- The fields of a parameter of the given type. With `aliases` it can also be reached by its
position. -/
def paramFields (aliases : Bool) (role : Role) (index : Nat) (p : Param) (type : String) :
    List Field :=
  let named : Field := ⟨p.nameOr role.placeholder index, type⟩
  if aliases then [named, ⟨toString index, type⟩] else [named]

/-- The fields of sibling parameters of the given types. -/
def siblingFields (aliases : Bool) (role : Role) : Nat → List Param → List String → List Field
  | index, p :: ps, type :: types =>
    paramFields aliases role index p type ++ siblingFields aliases role (index + 1) ps types
  | _, _, _ => []

/-- Whether the fields of a role can also be reached by their positions. -/
def Profile.aliases (profile : Profile) (role : Role) : Bool :=
  role == .response && profile.positionalAliases

mutual

/-- The type token of a parameter. -/
def typeToken (profile : Profile) (scope : String) (role : Role) :
    Param → Position → Registering String
  | ⟨_, typeTag, none, _, _⟩, position =>
    Registering.ofExcept (elementaryToken profile role ⟨scope, position.path⟩ typeTag)
  | ⟨name, typeTag, some ps, internalType, indexed⟩, position => do
    let brackets ← Registering.ofExcept (compositeBrackets ⟨scope, position.path⟩ typeTag)
    let types ← typeTokens profile scope role position.component 0 ps
    let p : Param := ⟨name, typeTag, some ps, internalType, indexed⟩
    let record ← registerRecord
      (paramRecordName scope p (p.nameOr role.placeholder position.index) role) role
      (siblingFields (profile.aliases role) role 0 ps types)
    return record ++ brackets

/-- The type tokens of sibling parameters, the first of which has position `index`. -/
def typeTokens (profile : Profile) (scope : String) (role : Role) (positionOf : Nat → Position)
    (index : Nat) : List Param → Registering (List String)
  | [] => return []
  | p :: ps => do
    let type ← typeToken profile scope role p (positionOf index)
    let types ← typeTokens profile scope role positionOf (index + 1) ps
    return type :: types

end

/-- The fields of sibling parameters. -/
def recordFields (profile : Profile) (scope : String) (role : Role) (positionOf : Nat → Position)
    (ps : List Param) : Registering (List Field) := do
  let types ← typeTokens profile scope role positionOf 0 ps
  return siblingFields (profile.aliases role) role 0 ps types

end AbiTypings
