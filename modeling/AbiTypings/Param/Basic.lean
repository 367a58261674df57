import AbiTypings.Text.Blank

/-!
# Parameters

An input or output of a member. A parameter is composite when it has a list of components, be it
empty; whether it is an array is said by its type tag alone.
-/

namespace AbiTypings

/-- An input or output of a member. An unnamed parameter has the empty name. -/
structure Param where
  name : String
  typeTag : String
  components : Option (List Param)
  internalType : Option String
  indexed : Bool
  deriving Inhabited

namespace Param

/-- Whether a parameter has a list of components, be it empty. -/
def isComposite (p : Param) : Bool :=
  p.components.isSome

/-- A name, or a placeholder and a position in its stead. -/
def nameOr (placeholder : String) (index : Nat) (p : Param) : String :=
  if p.name = "" then placeholder ++ toString index else p.name

/-- What stands after the last point. -/
def afterLastPoint (cs : List Char) : List Char :=
  (cs.reverse.takeWhile (· ≠ '.')).reverse

/-- The name of the struct that an internal type spells: `struct Pool.Position[]` is the struct
`Position`. -/
def structNameChars (cs : List Char) : Option (List Char) :=
  (['s', 't', 'r', 'u', 'c', 't', ' '].isPrefixOf? cs).bind fun rest =>
    let name := Text.trimChars (afterLastPoint (rest.takeWhile (· ≠ '[')))
    if name.isEmpty then none else some name

/-- The name of the struct that a parameter is an instance of, if that is known. -/
def structName? (p : Param) : Option String :=
  p.internalType.bind fun s => (structNameChars s.toList).map String.ofList

end Param
end AbiTypings
