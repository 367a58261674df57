import AbiTypings.Json.Decode
import AbiTypings.Layout

/-!
# The style of modules

How modules are indented, whether methods are documented, and how imports are written. In JSON each
of these may be left out and then has its usual value; null is no value.
-/

namespace AbiTypings

open Json

/-- What one level of indentation is. -/
inductive Indentation where
  | spaces (count : UInt64)
  | tabs
  deriving DecidableEq, Repr

/-- How modules are written. -/
structure ModuleStyle where
  indentation : Indentation := .spaces 2
  /-- Whether each method is preceded by its documentation. -/
  documented : Bool := true
  /-- The module that the companion types are imported from. -/
  companionModule : String := "./common.types"
  /-- Whether imports are marked as imports of types only. -/
  typeOnly : Bool := false
  deriving DecidableEq, Repr

/-- The text that indents by one level. -/
def Indentation.unit : Indentation → String
  | spaces count => String.ofList (List.replicate count.toNat ' ')
  | tabs => "\t"

namespace ModuleStyle

/-- The words that an import begins with. -/
def importWords (typeOnly : Bool) : String :=
  if typeOnly then "import type" else "import"

/-- What the imports of a module begin with. -/
def importKeyword (style : ModuleStyle) : String :=
  importWords style.typeOnly

/-- The margin that modules start at. -/
def margin (style : ModuleStyle) : Layout.Margin :=
  ⟨0, style.indentation.unit⟩

end ModuleStyle

/-! ## JSON -/

/-- The JSON form of an indentation. -/
def Indentation.toJson : Indentation → Json
  | spaces count => .obj [("Spaces", .int count.toNat)]
  | tabs => .str "Tabs"

/-- Decode an indentation. -/
def Indentation.ofJson (j : Json) : Decoded Indentation := do
  let (name, data) ← asVariant ["Spaces", "Tabs"] j
  match name with
  | "Spaces" => (oneValue asSize data).map .spaces
  | _ => (noData data).map fun _ => .tabs

namespace ModuleStyle

/-- The JSON form of a style has all of its members. -/
def toJson (style : ModuleStyle) : Json :=
  .obj [("common_types_module", .str style.companionModule),
    ("include_docs", .bool style.documented),
    ("indent_style", style.indentation.toJson),
    ("type_only_imports", .bool style.typeOnly)]

/-- The names of the members, in the order of the list form. -/
def memberNames : List String :=
  ["indent_style", "include_docs", "common_types_module", "type_only_imports"]

/-- Visit a member. -/
def visit (style : ModuleStyle) : String × Json → Decoded ModuleStyle
  | ("indent_style", j) => (Indentation.ofJson j).map fun s => { style with indentation := s }
  | ("include_docs", j) => (asBool j).map fun b => { style with documented := b }
  | ("common_types_module", j) =>
    (asString j).map fun s => { style with companionModule := s }
  | ("type_only_imports", j) => (asBool j).map fun b => { style with typeOnly := b }
  | _ => .ok style

/-- Decode a style, which is an object of its members or a list of them. -/
def ofJson : Json → Decoded ModuleStyle
  | .obj members => members.foldlM visit {}
  | .arr items => do
    let style ← (memberNames.zip items).foldlM visit {}
    noMoreThan 4 items
    return style
  | j => expected "struct EmitterConfig" j

end ModuleStyle
end AbiTypings
