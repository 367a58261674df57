import AbiTypings.EventFilter
import AbiTypings.Method

/-!
# Bindings of members

A constructor or function becomes a method and an event becomes a filter, and the records they need
are registered on the way. The name of a member is noted before anything else, so that it stays when
the member turns out to be faulty.
-/

namespace AbiTypings

/-- The name that constructors are listed under. -/
def constructorName : String := "new"

/-- What the records inside a constructor are named after. -/
def constructorScope : String := "constructor"

/-- The documentation of a parameter. -/
def paramDoc (index : Nat) (p : Param) : ParamDoc :=
  ⟨p.nameOr Role.request.placeholder index, p.typeTag, p.indexed⟩

/-- The documentation of a call. -/
def docsOf (kind : MemberKind) (traits : CallTraits) (effect : CallEffect) (inputs : List Param) :
    MethodDocs where
  kind := kind
  payable := effect.isPayable
  constant := effect.isReadOnly
  mutability := traits.mutability
  params := inputs.mapIdx paramDoc

/-- The parameters of a call. -/
def inputFields (profile : Profile) (scope : String) (inputs : List Param) :
    Registering (List Field) :=
  recordFields profile scope .request Position.input inputs

/-! ## Methods -/

/-- The effect of a constructor: it is never a mere read. -/
def constructorEffect (traits : CallTraits) : CallEffect :=
  match traits.effect with
  | .payable => .payable
  | _ => .mutating

/-- The method of a constructor. -/
def Method.ofConstructor (profile : Profile) (inputs : List Param) (traits : CallTraits) :
    Registering Method := do
  modify (·.noteMethod constructorName)
  let params ← inputFields profile constructorScope inputs
  let effect := constructorEffect traits
  return .build profile constructorName true effect params .void
    (docsOf .constructor traits effect inputs)

/-- What a function hands back. A single output always gets its token; several outputs become a
record if the function only reads, and are dropped otherwise. -/
def resultOf (profile : Profile) (name : String) (effect : CallEffect) :
    List Param → Registering Result
  | [] => return .void
  | [output] => do
    let type ← typeToken profile name .response output (Position.output 0)
    return .value type
  | outputs =>
    if effect.isReadOnly then do
      let fields ← recordFields profile name .response Position.output outputs
      let length : List Field :=
        if profile.positionalAliases then [⟨"length", toString outputs.length⟩] else []
      let record ← registerRecord (outputsRecordName name) .response (fields ++ length)
      return .value record
    else return .void

/-- The method of a function. -/
def Method.ofFunction (profile : Profile) (name : String) (inputs outputs : List Param)
    (traits : CallTraits) : Registering Method := do
  modify (·.noteMethod name)
  let effect := traits.effect
  let params ← inputFields profile name inputs
  let result ← resultOf profile name effect outputs
  return .build profile name false effect params result
    (docsOf .function traits effect inputs)

/-! ## Event filters -/

/-- An input of an event, whose name and type are those of a field. -/
def eventParam (p : Param) (field : Field) : EventParam :=
  ⟨field.key, field.type, p.indexed⟩

/-- The filter of an event. An event with inputs also gets a record of them. -/
def EventFilter.ofEvent (profile : Profile) (name : String) (inputs : List Param) :
    Registering EventFilter := do
  modify (·.noteEvent name)
  let fields ← recordFields profile name .event Position.input inputs
  unless fields.isEmpty do
    let _ ← registerRecord (eventRecordName name) .event fields
  return ⟨name, inputs.zipWith eventParam fields, profile.eventFilter⟩

end AbiTypings
