/-!
# Types of values

A type is an elementary type or a tuple, under any number of array dimensions, innermost first:
`uint8[2][]` is a dynamic array of arrays of two `uint8`. The members of a tuple are not part of its
type here; they belong to the parameter that has the type.
-/

namespace AbiTypings

/-- The elementary types. -/
inductive Elementary where
  | bool
  | address
  | uint (bits : UInt16)
  | int (bits : UInt16)
  | fixedBytes (size : UInt8)
  | bytes
  | string
  | function
  | fixed (signed : Bool) (bits : UInt16) (decimals : UInt8)
  deriving DecidableEq, Repr

/-- One array dimension. -/
inductive Dimension where
  | dynamic
  | fixed (size : UInt64)
  deriving DecidableEq, Repr

/-- What a type is apart from its dimensions. -/
inductive BaseType where
  | elementary (type : Elementary)
  | tuple
  deriving DecidableEq, Repr

/-- A type. -/
structure AbiType where
  base : BaseType
  dims : List Dimension
  deriving DecidableEq, Repr

/-! ## Spelling -/

/-- An elementary type as it is spelled, its widths always written out. -/
def Elementary.text : Elementary → String
  | bool => "bool"
  | address => "address"
  | uint bits => "uint" ++ toString bits.toNat
  | int bits => "int" ++ toString bits.toNat
  | fixedBytes size => "bytes" ++ toString size.toNat
  | bytes => "bytes"
  | string => "string"
  | function => "function"
  | fixed signed bits decimals =>
    (if signed then "fixed" else "ufixed") ++ toString bits.toNat ++ "x" ++ toString decimals.toNat

/-- A dimension as it is spelled: its size in brackets, or empty brackets for any size. -/
def Dimension.text : Dimension → String
  | dynamic => "[]"
  | fixed size => "[" ++ toString size.toNat ++ "]"

/-- A base as it is spelled. -/
def BaseType.text : BaseType → String
  | elementary type => type.text
  | tuple => "tuple"

/-- A type as it is spelled: its base, and then its dimensions. -/
def AbiType.text (type : AbiType) : String :=
  type.base.text ++ String.join (type.dims.map Dimension.text)

/-! ## Properties -/

/-- Whether values of a type are integers, signed or not. -/
def Elementary.isInteger : Elementary → Bool
  | uint _ | int _ => true
  | _ => false

/-- Whether values of a type are strings of bytes, of a fixed size or of any. -/
def Elementary.holdsBytes : Elementary → Bool
  | fixedBytes _ | bytes => true
  | _ => false

/-- Whether a type has dimensions. -/
def AbiType.isArray (type : AbiType) : Bool :=
  !type.dims.isEmpty

/-- Whether a type is a tuple or an array of tuples. -/
def AbiType.isTuple (type : AbiType) : Bool :=
  type.base matches .tuple

/-- What array dimensions add to a token: a pair of brackets each, without the size. -/
def brackets : List Dimension → String
  | [] => ""
  | _ :: dims => "[]" ++ brackets dims

/-- The brackets that a type adds to the token of its base. -/
def AbiType.brackets (type : AbiType) : String :=
  AbiTypings.brackets type.dims

end AbiTypings
