import AbiTypings.Fault
import AbiTypings.Text.Blank
import AbiTypings.Text.Decimal
import AbiTypings.AbiType.Basic

/-!
# Type tags

A tag is a type as it is spelled in a document: a keyword, widths where the keyword takes them, and
dimensions in brackets, with nothing between them. Reading a tag is done in two steps.
`TypeTag.read` splits it into its parts and knows only their spelling; `TypeTag.resolve` gives the
parts their meaning and refuses numbers out of range. Widths that are left out have a customary
value.
-/

namespace AbiTypings

/-- The base of a tag. A width that is left out has no digits. -/
inductive BaseTag where
  | tuple
  | address
  | bool
  | string
  | function
  | bytes (size : List Char)
  | uint (width : List Char)
  | int (width : List Char)
  | fixed (signed : Bool) (widths : Option (List Char × List Char))
  deriving DecidableEq, Repr

/-- A tag: its base and the digits between each pair of brackets. -/
structure TypeTag where
  base : BaseTag
  dims : List (List Char)
  deriving DecidableEq, Repr

/-! ## Spelling -/

/-- Read the widths of a fixed-point type: digits, an `x`, and digits. -/
def readFixedWidths (cs : List Char) : Option (List Char × List Char) × List Char :=
  let bits := cs.takeWhile Char.isDigit
  match cs.dropWhile Char.isDigit with
  | 'x' :: rest =>
    let decimals := rest.takeWhile Char.isDigit
    if bits.isEmpty || decimals.isEmpty then (none, cs)
    else (some (bits, decimals), rest.dropWhile Char.isDigit)
  | _ => (none, cs)

/-- A keyword that takes an optional width. -/
def readWidth (base : List Char → BaseTag) (cs : List Char) : BaseTag × List Char :=
  (base (cs.takeWhile Char.isDigit), cs.dropWhile Char.isDigit)

/-- A keyword that takes optional fixed-point widths. -/
def readFixed (signed : Bool) (cs : List Char) : BaseTag × List Char :=
  let (widths, rest) := readFixedWidths cs
  (.fixed signed widths, rest)

/-- The keywords, each with what may follow it. No keyword begins another one. -/
def keywords : List (List Char × (List Char → BaseTag × List Char)) := [
  (['t', 'u', 'p', 'l', 'e'], fun cs => (.tuple, cs)),
  (['u', 'f', 'i', 'x', 'e', 'd'], readFixed false),
  (['f', 'i', 'x', 'e', 'd'], readFixed true),
  (['u', 'i', 'n', 't'], readWidth .uint),
  (['i', 'n', 't'], readWidth .int),
  (['a', 'd', 'd', 'r', 'e', 's', 's'], fun cs => (.address, cs)),
  (['b', 'o', 'o', 'l'], fun cs => (.bool, cs)),
  (['s', 't', 'r', 'i', 'n', 'g'], fun cs => (.string, cs)),
  (['b', 'y', 't', 'e', 's'], readWidth .bytes),
  (['f', 'u', 'n', 'c', 't', 'i', 'o', 'n'], fun cs => (.function, cs))]

/-- Read the base at the front of a tag. -/
def readBase (cs : List Char) : Option (BaseTag × List Char) :=
  keywords.findSome? fun (keyword, follow) => (keyword.isPrefixOf? cs).map follow

/-- Read dimensions up to the end of a tag. Inside a dimension, `digits` holds its digits, last one
first. -/
def readDims (digits : Option (List Char)) : List Char → Option (List (List Char))
  | [] => if digits.isNone then some [] else none
  | c :: cs =>
    match digits with
    | none => if c = '[' then readDims (some []) cs else none
    | some ds =>
      if c = ']' then (readDims none cs).map (ds.reverse :: ·)
      else if c.isDigit then readDims (some (c :: ds)) cs
      else none

/-- Read a tag into its parts. -/
def TypeTag.read (cs : List Char) : Option TypeTag :=
  (readBase cs).bind fun (base, rest) => (readDims none rest).map (⟨base, ·⟩)

/-- Whether a text is spelled like a tag. -/
def isTypeTag (s : String) : Bool :=
  (TypeTag.read s.toList).isSome

/-! ## Meaning -/

/-- The value of a width, or the customary one when it is left out. -/
def widthOr (customary : Nat) (digits : List Char) : Nat :=
  if digits.isEmpty then customary else Text.numeral digits

/-- The width of a number: a multiple of 8 up to 256. -/
def numberWidth? (n : Nat) : Option UInt16 :=
  if 8 ≤ n ∧ n ≤ 256 ∧ n % 8 = 0 then some (UInt16.ofNat n) else none

/-- The number of decimals of a fixed-point number. -/
def decimals? (n : Nat) : Option UInt8 :=
  if n ≤ 80 then some (UInt8.ofNat n) else none

/-- The size of a byte string. -/
def byteSize? (n : Nat) : Option UInt8 :=
  if 1 ≤ n ∧ n ≤ 32 then some (UInt8.ofNat n) else none

/-- The size of an array. -/
def arraySize? (n : Nat) : Option UInt64 :=
  if 1 ≤ n ∧ n < UInt64.size then some (UInt64.ofNat n) else none

/-- The meaning of a base, unless a number in it is out of range. A width that is left out is 256,
and those of a fixed-point number are 128 and 18. -/
def BaseTag.resolve : BaseTag → Option BaseType
  | tuple => some .tuple
  | address => some (.elementary .address)
  | bool => some (.elementary .bool)
  | string => some (.elementary .string)
  | function => some (.elementary .function)
  | bytes size =>
    if size.isEmpty then some (.elementary .bytes)
    else (byteSize? (Text.numeral size)).map (.elementary <| .fixedBytes ·)
  | uint width => (numberWidth? (widthOr 256 width)).map (.elementary <| .uint ·)
  | int width => (numberWidth? (widthOr 256 width)).map (.elementary <| .int ·)
  | fixed signed none => some (.elementary (.fixed signed 128 18))
  | fixed signed (some (bits, decimals)) =>
    (numberWidth? (Text.numeral bits)).bind fun b =>
      (decimals? (Text.numeral decimals)).map (.elementary <| .fixed signed b ·)

/-- The meaning of the digits between two brackets. -/
def resolveDim (digits : List Char) : Option Dimension :=
  if digits.isEmpty then some .dynamic
  else (arraySize? (Text.numeral digits)).map .fixed

/-- The meaning of a tag, unless a number in it is out of range. -/
def TypeTag.resolve (tag : TypeTag) : Option AbiType :=
  tag.base.resolve.bind fun base => (tag.dims.mapM resolveDim).map (⟨base, ·⟩)

/-- Read a type, with blanks around it allowed. -/
def AbiType.ofTag? (s : String) : Option AbiType :=
  (TypeTag.read (Text.trimChars s.toList)).bind TypeTag.resolve

/-- Read a type; the error names the tag as it was given. -/
def AbiType.ofTag (s : String) : Except Fault AbiType :=
  match AbiType.ofTag? s with
  | some type => .ok type
  | none => .error (.type s none)

end AbiTypings
