import AbiTypings.Json.Decode
import AbiTypings.Param.Basic

/-!
# Parameters as JSON

Components and the internal type are written only when they are present. All members but the type
may be left out or null.
-/

namespace AbiTypings

open Json

/-! ## Writing -/

mutual

/-- The JSON form of a parameter, its members in the order of their names. -/
def Param.toJson : Param → Json
  | ⟨name, typeTag, components, internalType, indexed⟩ =>
    .obj (Param.componentsToJson components ++ [("indexed", .bool indexed)]
      ++ (internalType.map fun s => ("internalType", .str s)).toList
      ++ [("name", .str name), ("type", .str typeTag)])

/-- The member for components, if there are any to be written. -/
def Param.componentsToJson : Option (List Param) → List (String × Json)
  | some ps => [("components", .arr (Param.listToJson ps))]
  | none => []

/-- The JSON forms of parameters. -/
def Param.listToJson : List Param → List Json
  | [] => []
  | p :: ps => p.toJson :: Param.listToJson ps

end

/-! ## Reading -/

/-- The members of a parameter read so far. -/
structure ParamMembers where
  name : String := ""
  typeTag : Option String := none
  components : Option (List Param) := none
  internalType : Option String := none
  indexed : Bool := false

/-- The members of a parameter, in the order of the list form. -/
def Param.memberNames : List String :=
  ["name", "type", "components", "internalType", "indexed"]

/-- Visit a member other than the components. -/
def ParamMembers.visit (acc : ParamMembers) (key : String) (j : Json) : Decoded ParamMembers :=
  if key = "name" then (orDefault asString j).map fun s => { acc with name := s }
  else if key = "type" then (asString j).map fun s => { acc with typeTag := some s }
  else if key = "internalType" then
    (nullable asString j).map fun s => { acc with internalType := s }
  else if key = "indexed" then (orDefault asBool j).map fun b => { acc with indexed := b }
  else .ok acc

/-- The parameter of the given members; `missing` is the fault of a missing type. -/
def ParamMembers.toParam (missing : DecodeError) (acc : ParamMembers) : Decoded Param :=
  match acc.typeTag with
  | some typeTag => .ok ⟨acc.name, typeTag, acc.components, acc.internalType, acc.indexed⟩
  | none => .error missing

mutual

/-- Decode a parameter, which is an object of its members or a list of them. -/
def Param.ofJson : Json → Decoded Param
  | .obj members => do
    let acc ← Param.visitMembers {} members
    acc.toParam (.missingField "type")
  | .arr items => do
    let acc ← Param.visitItems {} Param.memberNames items
    let p ← acc.toParam (.invalidLength 1 "struct Param with 5 elements")
    noMoreThan 5 items
    return p
  | j => expected "struct Param" j

/-- Visit one member. -/
def Param.visitMember (acc : ParamMembers) (key : String) (j : Json) : Decoded ParamMembers :=
  if key = "components" then
    match j with
    | .null => .ok { acc with components := none }
    | .arr items => do
      let ps ← Param.listOfJson items
      return { acc with components := some ps }
    | j => expected "a sequence" j
  else acc.visit key j

/-- Visit the members of an object. -/
def Param.visitMembers (acc : ParamMembers) : List (String × Json) → Decoded ParamMembers
  | [] => .ok acc
  | (key, j) :: rest => do
    let acc ← Param.visitMember acc key j
    Param.visitMembers acc rest

/-- Visit the elements of a list, which stand for the members in order. -/
def Param.visitItems (acc : ParamMembers) (names : List String) :
    List Json → Decoded ParamMembers
  | [] => .ok acc
  | j :: rest =>
    match names with
    | [] => .ok acc
    | key :: names => do
      let acc ← Param.visitMember acc key j
      Param.visitItems acc names rest

/-- Decode a list of parameters. -/
def Param.listOfJson : List Json → Decoded (List Param)
  | [] => .ok []
  | j :: rest => do
    let p ← Param.ofJson j
    let ps ← Param.listOfJson rest
    return p :: ps

end

end AbiTypings
