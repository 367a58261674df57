import AbiTypings.Param.Basic

/-!
# Members

The entries of a contract interface: the constructor, functions, events, and entries that cannot be
called. A call has one of three effects (`CallTraits.effect`): it pays, it may change the state, or
it only reads.
-/

namespace AbiTypings

/-- The kinds of members. -/
inductive MemberKind where
  | constructor
  | function
  | event
  | fallback
  | receive
  | error
  deriving DecidableEq, Repr

/-- What a function declares to do to the state. -/
inductive Mutability where
  | pure
  | view
  | nonPayable
  | payable
  deriving DecidableEq, Repr

/-- What is declared about a call. `constant` is the older spelling of `view`. -/
structure CallTraits where
  payable : Bool := false
  mutability : Option Mutability := none
  constant : Bool := false
  deriving DecidableEq, Repr

/-- An entry of a contract interface. -/
inductive Member where
  | constructor (inputs : List Param) (traits : CallTraits)
  | function (name : String) (inputs outputs : List Param) (traits : CallTraits)
  | event (name : String) (inputs : List Param) (anonymous : Bool)
  /-- A fallback, receive or error entry. -/
  | nonCallable (kind : MemberKind) (name : Option String)

/-- What a call may do. -/
inductive CallEffect where
  | payable
  | mutating
  | readOnly
  deriving DecidableEq, Repr

/-! ## Names -/

/-- All kinds of members. -/
def MemberKind.all : List MemberKind :=
  [constructor, function, event, fallback, receive, error]

/-- The name of a kind of members. -/
def MemberKind.text : MemberKind → String
  | constructor => "constructor"
  | function => "function"
  | event => "event"
  | fallback => "fallback"
  | receive => "receive"
  | error => "error"

/-- All mutabilities. -/
def Mutability.all : List Mutability :=
  [pure, view, nonPayable, payable]

/-- The name of a mutability, which is written in one word. -/
def Mutability.text : Mutability → String
  | pure => "pure"
  | view => "view"
  | nonPayable => "nonpayable"
  | payable => "payable"

/-- The name of an effect. -/
def CallEffect.text : CallEffect → String
  | payable => "payable"
  | mutating => "mutating"
  | readOnly => "read-only"

/-- The kind of a member. -/
def Member.kind : Member → MemberKind
  | constructor .. => .constructor
  | function .. => .function
  | event .. => .event
  | nonCallable kind _ => kind

/-- The name of a member, if it has one. -/
def Member.name? : Member → Option String
  | constructor .. => none
  | function name .. => some name
  | event name .. => some name
  | nonCallable _ name => name

/-! ## Effects -/

/-- Whether a call only reads. -/
def CallEffect.isReadOnly (effect : CallEffect) : Bool := effect == .readOnly

/-- Whether a call pays. -/
def CallEffect.isPayable (effect : CallEffect) : Bool := effect == .payable

/-- The effect of a call. Being payable wins, and only `view` and `pure` make a call read-only: a
call of which nothing is declared may change the state. -/
def CallEffect.ofDeclared (payable : Bool) (mutability : Option Mutability) : CallEffect :=
  if payable then .payable
  else
    match mutability with
    | some .payable => .payable
    | some .view | some .pure => .readOnly
    | some .nonPayable | none => .mutating

/-- The effect of a call by all that is declared about it. `constant` stands for `view` where no
mutability is declared. -/
def CallTraits.effect (traits : CallTraits) : CallEffect :=
  .ofDeclared traits.payable
    (if traits.mutability.isNone && traits.constant then some .view else traits.mutability)

/-- The traits of a call of which only the mutability is declared. -/
def CallTraits.ofMutability (mutability : Mutability) : CallTraits where
  payable := mutability == .payable
  mutability := some mutability

end AbiTypings
