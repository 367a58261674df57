import AbiTypings.Json.Decode
import AbiTypings.AbiType.Basic

/-!
# Types as JSON

The JSON form of types: an elementary type without a width is its name, one with widths is an object
from its name to them, and a type is an object of its base and its dimensions.
-/

namespace AbiTypings

open Json

/-! ## Writing -/

/-- The JSON form of an elementary type: its name, with its widths if it has some. -/
def Elementary.toJson : Elementary → Json
  | bool => .str "Bool"
  | address => .str "Address"
  | uint bits => .obj [("Uint", .int bits.toNat)]
  | int bits => .obj [("Int", .int bits.toNat)]
  | fixedBytes size => .obj [("FixedBytes", .int size.toNat)]
  | bytes => .str "Bytes"
  | string => .str "String"
  | function => .str "Function"
  | fixed signed bits decimals =>
    .obj [("Fixed", .obj [("bits", .int bits.toNat), ("decimals", .int decimals.toNat),
      ("signed", .bool signed)])]

/-- The JSON form of a dimension. -/
def Dimension.toJson : Dimension → Json
  | dynamic => .str "Dynamic"
  | fixed size => .obj [("Fixed", .int size.toNat)]

/-- The JSON form of a base. -/
def BaseType.toJson : BaseType → Json
  | elementary type => .obj [("Scalar", type.toJson)]
  | tuple => .str "Tuple"

/-- The JSON form of a type: its base and the list of its dimensions. -/
def AbiType.toJson (type : AbiType) : Json :=
  .obj [("base", type.base.toJson), ("dims", .arr (type.dims.map Dimension.toJson))]

/-! ## Reading -/

/-- The widths of a fixed-point type read so far. -/
structure FixedWidths where
  signed : Option Bool
  bits : Option UInt16
  decimals : Option UInt8

/-- Visit a member of a fixed-point type. -/
def FixedWidths.visit (widths : FixedWidths) : String × Json → Decoded FixedWidths
  | ("signed", j) => (asBool j).map fun b => { widths with signed := some b }
  | ("bits", j) => (asUInt16 j).map fun n => { widths with bits := some n }
  | ("decimals", j) => (asUInt8 j).map fun n => { widths with decimals := some n }
  | _ => .ok widths

/-- The widths of a fixed-point type. -/
def fixedOfMembers (members : List (String × Json)) : Decoded Elementary := do
  let widths ← members.foldlM FixedWidths.visit ⟨none, none, none⟩
  let signed ← required "signed" widths.signed
  let bits ← required "bits" widths.bits
  let decimals ← required "decimals" widths.decimals
  return .fixed signed bits decimals

/-- The names of the elementary types. -/
def elementaryNames : List String :=
  ["Bool", "Address", "Uint", "Int", "FixedBytes", "Bytes", "String", "Function", "Fixed"]

/-- Decode an elementary type. -/
def Elementary.ofJson (j : Json) : Decoded Elementary := do
  let (name, data) ← asVariant elementaryNames j
  match name with
  | "Bool" => (noData data).map fun _ => .bool
  | "Address" => (noData data).map fun _ => .address
  | "Uint" => (oneValue asUInt16 data).map .uint
  | "Int" => (oneValue asUInt16 data).map .int
  | "FixedBytes" => (oneValue asUInt8 data).map .fixedBytes
  | "Bytes" => (noData data).map fun _ => .bytes
  | "String" => (noData data).map fun _ => .string
  | "Function" => (noData data).map fun _ => .function
  | _ => (namedMembers data).bind fixedOfMembers

/-- Decode a dimension. -/
def Dimension.ofJson (j : Json) : Decoded Dimension := do
  let (name, data) ← asVariant ["Dynamic", "Fixed"] j
  match name with
  | "Dynamic" => (noData data).map fun _ => .dynamic
  | _ => (oneValue asSize data).map .fixed

/-- Decode a base. -/
def BaseType.ofJson (j : Json) : Decoded BaseType := do
  let (name, data) ← asVariant ["Scalar", "Tuple"] j
  match name with
  | "Scalar" => (oneValue Elementary.ofJson data).map .elementary
  | _ => (noData data).map fun _ => .tuple

/-- The members of a type read so far. -/
structure AbiTypeMembers where
  base : Option BaseType
  dims : Option (List Dimension)

/-- Visit a member of a type. -/
def AbiTypeMembers.visit (acc : AbiTypeMembers) : String × Json → Decoded AbiTypeMembers
  | ("base", j) => (BaseType.ofJson j).map fun b => { acc with base := some b }
  | ("dims", j) => (asList Dimension.ofJson j).map fun ds => { acc with dims := some ds }
  | _ => .ok acc

/-- Decode a type, which is an object of its two members or a list of them. -/
def AbiType.ofJson : Json → Decoded AbiType
  | .obj members => do
    let acc ← members.foldlM AbiTypeMembers.visit ⟨none, none⟩
    let base ← required "base" acc.base
    let dims ← required "dims" acc.dims
    return ⟨base, dims⟩
  | .arr items =>
    let short (length : Nat) : Decoded AbiType :=
      .error (.invalidLength length "struct TypeSpec with 2 elements")
    match items with
    | [] => short 0
    | [j] => (BaseType.ofJson j).bind fun _ => short 1
    | j :: k :: _ => do
      let base ← BaseType.ofJson j
      let dims ← asList Dimension.ofJson k
      noMoreThan 2 items
      return ⟨base, dims⟩
  | j => expected "struct TypeSpec" j

end AbiTypings
