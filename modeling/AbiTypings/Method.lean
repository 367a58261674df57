import AbiTypings.TypeToken
import AbiTypings.Member.Basic

/-!
# Methods

How the calls of a contract are written: the parameters of a constructor or function, what it
returns in a dialect, and the lines that document it.
-/

namespace AbiTypings

/-! ## Documentation -/

/-- A documented parameter. -/
structure ParamDoc where
  name : String
  typeTag : String
  indexed : Bool
  deriving DecidableEq, Repr

/-- What is documented of a method. -/
structure MethodDocs where
  kind : MemberKind
  payable : Bool
  constant : Bool
  mutability : Option Mutability
  params : List ParamDoc
  deriving DecidableEq, Repr

/-- The line that documents a parameter. -/
def ParamDoc.text (doc : ParamDoc) : String :=
  "@param " ++ doc.name ++ " Type: " ++ doc.typeTag ++ ", Indexed: " ++ toString doc.indexed

/-- The lines of a documentation. -/
def MethodDocs.lines (docs : MethodDocs) : List String :=
  ["Payable: " ++ toString docs.payable,
    "Constant: " ++ toString docs.constant,
    "StateMutability: " ++ (docs.mutability.map Mutability.text).getD "undefined",
    "Type: " ++ docs.kind.text] ++ docs.params.map ParamDoc.text

/-! ## Results -/

/-- What a call hands back before it is wrapped. -/
inductive Result where
  | void
  | value (type : String)
  deriving DecidableEq, Repr

/-- What a call hands back, as it is written. -/
def Result.text : Result → String
  | void => "void"
  | value type => type

/-- Wrap what a call hands back. A call that may change the state hands back its transaction,
whatever its outputs are. -/
def wrapResult (profile : Profile) (effect : CallEffect) (result : Result) : String :=
  match profile.wrapper, effect with
  | .promise _, .readOnly => "Promise<" ++ result.text ++ ">"
  | .promise transaction, _ => "Promise<" ++ transaction ++ ">"
  | .context readOnly _ _, .readOnly => readOnly ++ "<" ++ result.text ++ ">"
  | .context _ mutating _, .mutating => mutating
  | .context _ _ payable, .payable => payable

/-! ## Methods -/

/-- A trailing parameter that overrides how a call is sent. -/
structure Overrides where
  name : String
  type : String
  deriving DecidableEq, Repr

/-- A method: a constructor or function as it is called. -/
structure Method where
  name : String
  isConstructor : Bool
  effect : CallEffect
  params : List Field
  overrides : Option Overrides
  /-- The type of what it returns, wrapped. -/
  returns : String
  docs : MethodDocs
  deriving DecidableEq, Repr

/-- The parameter of overrides, which may always be left out. -/
def Overrides.text (overrides : Overrides) : String :=
  overrides.name ++ "?: " ++ overrides.type

/-- The text of a method. The name of a constructor is quoted, as it is a keyword. -/
def Method.text (method : Method) : String :=
  let params := method.params.map Field.text ++ method.overrides.toList.map Overrides.text
  let name := if method.isConstructor then "'" ++ method.name ++ "'" else method.name
  name ++ "(" ++ ", ".intercalate params ++ "): " ++ method.returns

/-- The overrides of calls with an effect. -/
def overridesOf (profile : Profile) (effect : CallEffect) : Option Overrides :=
  profile.overrides.map fun style =>
    ⟨style.paramName, if effect.isReadOnly then style.callType else style.transactionType⟩

/-- The method of given parameters and result in a dialect. -/
def Method.build (profile : Profile) (name : String) (isConstructor : Bool)
    (effect : CallEffect) (params : List Field) (result : Result) (docs : MethodDocs) :
    Method where
  name := name
  isConstructor := isConstructor
  effect := effect
  params := params
  overrides := overridesOf profile effect
  returns := wrapResult profile effect result
  docs := docs

end AbiTypings
