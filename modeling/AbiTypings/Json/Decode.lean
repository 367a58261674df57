import AbiTypings.Binary64.Shortest
import AbiTypings.Json.Basic
import AbiTypings.Text.Quoted

/-!
# Decoding JSON values

What is common to the decoders of all types: the ways in which a value can be refused, with their
messages, and the decoders of basic values, of optional values and of enumerations.

A decoder stops at the first fault. An object is visited member by member in the order of its keys;
keys that the type does not know are skipped, and a required member that is absent is reported after
all others were visited. A list stands for the members in their given order.
-/

namespace AbiTypings.Json

/-! ## Faults -/

/-- What was found in the place of something else. -/
inductive Found where
  | null
  | bool (value : Bool)
  | int (value : Int)
  | real (value : Binary64)
  | str (value : String)
  | sequence
  | map
  /-- The name of a variant without its data. -/
  | bareVariant
  deriving DecidableEq, Repr

/-- The kind of a value, with the value itself where it is short. -/
def found : Json → Found
  | null => .null
  | bool b => .bool b
  | int n => .int n
  | real x => .real x
  | str s => .str s
  | arr _ => .sequence
  | obj _ => .map

/-- What was found, as it is reported. -/
def Found.text : Found → String
  | null => "null"
  | bool b => "boolean `" ++ toString b ++ "`"
  | int n => "integer `" ++ toString n ++ "`"
  | real x => "floating point `" ++ x.text ++ "`"
  | str s => "string " ++ Text.quoted s
  | sequence => "sequence"
  | map => "map"
  | bareVariant => "unit variant"

/-- Why a value was refused. -/
inductive DecodeError where
  | invalidType (found : Found) (wanted : String)
  | invalidValue (found : Found) (wanted : String)
  | missingField (name : String)
  | unknownVariant (name : String) (known : List String)
  | invalidLength (length : Nat) (wanted : String)
  /-- The value has the right form, and its content was refused for a reason of the type's own. -/
  | refused (reason : String)
  deriving DecidableEq, Repr

/-- A list of names to choose from. -/
def oneOf (known : List String) : String :=
  match known.map fun name => "`" ++ name ++ "`" with
  | [] => "nothing"
  | [a] => a
  | [a, b] => a ++ " or " ++ b
  | names => "one of " ++ ", ".intercalate names

/-- What is reported of a refused value. -/
def DecodeError.message : DecodeError → String
  | invalidType found wanted => "invalid type: " ++ found.text ++ ", expected " ++ wanted
  | invalidValue found wanted => "invalid value: " ++ found.text ++ ", expected " ++ wanted
  | missingField name => "missing field `" ++ name ++ "`"
  | unknownVariant name known => "unknown variant `" ++ name ++ "`, expected " ++ oneOf known
  | invalidLength length wanted => "invalid length " ++ toString length ++ ", expected " ++ wanted
  | refused reason => reason

/-- The result of decoding. -/
abbrev Decoded (α : Type) := Except DecodeError α

/-- Refuse a value of the wrong kind. -/
def expected {α : Type} (wanted : String) (j : Json) : Decoded α :=
  .error (.invalidType j.found wanted)

/-! ## Basic values -/

/-- A value that must be a string. -/
def asString : Json → Decoded String
  | str s => .ok s
  | j => expected "a string" j

/-- A value that must be a truth value. -/
def asBool : Json → Decoded Bool
  | bool b => .ok b
  | j => expected "a boolean" j

/-- A natural number below a bound; `wanted` names the type that has this bound. -/
def asNatBelow (bound : Nat) (wanted : String) : Json → Decoded Nat
  | int n =>
    if 0 ≤ n ∧ n < bound then .ok n.toNat else .error (.invalidValue (.int n) wanted)
  | j => expected wanted j

/-- A number of 8 bits. -/
def asUInt8 (j : Json) : Decoded UInt8 :=
  (asNatBelow UInt8.size "u8" j).map UInt8.ofNat

/-- A number of 16 bits. -/
def asUInt16 (j : Json) : Decoded UInt16 :=
  (asNatBelow UInt16.size "u16" j).map UInt16.ofNat

/-- A size in memory. -/
def asSize (j : Json) : Decoded UInt64 :=
  (asNatBelow UInt64.size "usize" j).map UInt64.ofNat

/-- A list of values, each decoded by `item`. -/
def asList {α : Type} (item : Json → Decoded α) : Json → Decoded (List α)
  | arr items => items.mapM item
  | j => expected "a sequence" j

/-- A value that may be null. -/
def nullable {α : Type} (decode : Json → Decoded α) : Json → Decoded (Option α)
  | null => .ok none
  | j => (decode j).map some

/-- A value that stands for a default when it is null. -/
def orDefault {α : Type} [Inhabited α] (decode : Json → Decoded α) (j : Json) : Decoded α :=
  (nullable decode j).map (·.getD default)

/-! ## Members -/

/-- A member that must be present. -/
def required {α : Type} (name : String) : Option α → Decoded α
  | some value => .ok value
  | none => .error (.missingField name)

/-- Refuse a list that has more elements than the type has members. -/
def noMoreThan (count : Nat) (items : List Json) : Decoded Unit :=
  if count < items.length then .error (.invalidLength items.length "fewer elements in array")
  else .ok ()

/-! ## Enumerations -/

/-- The variant that a value names, with its data when it has the form of an object. -/
def asVariant (known : List String) (j : Json) : Decoded (String × Option Json) :=
  let check (name : String) (data : Option Json) : Decoded (String × Option Json) :=
    if known.contains name then .ok (name, data) else .error (.unknownVariant name known)
  match j with
  | str name => check name none
  | obj [(name, data)] => check name (some data)
  | obj _ => .error (.invalidValue .map "map with a single key")
  | j => expected "string or map" j

/-- The data of a variant that has none. -/
def noData : Option Json → Decoded Unit
  | none => .ok ()
  | some null => .ok ()
  | some j => expected "unit" j

/-- The data of a variant that has one value. -/
def oneValue {α : Type} (decode : Json → Decoded α) : Option Json → Decoded α
  | some j => decode j
  | none => .error (.invalidType .bareVariant "newtype variant")

/-- The data of a variant that has named members. -/
def namedMembers : Option Json → Decoded (List (String × Json))
  | some (obj members) => .ok members
  | some j => expected "struct variant" j
  | none => .error (.invalidType .bareVariant "struct variant")

/-- An enumeration whose variants have no data, given by their names. -/
def asEnum {α : Type} (variants : List (String × α)) (j : Json) : Decoded α := do
  let (name, data) ← asVariant (variants.map (·.1)) j
  noData data
  match variants.lookup name with
  | some value => .ok value
  | none => .error (.unknownVariant name (variants.map (·.1)))

end AbiTypings.Json
