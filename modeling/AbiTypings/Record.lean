import AbiTypings.Dialect

/-!
# Records

The named records that composite parameters, multiple outputs and events turn into. The role of a
record says what it is used for, and decides how it is named and which types its fields have.
-/

namespace AbiTypings

/-- What a record is used for. -/
inductive Role where
  | request
  | response
  | event
  deriving DecidableEq, Repr

/-- A field of a record, or a parameter of a call: a key and the token of its type. -/
structure Field where
  key : String
  type : String
  deriving DecidableEq, Repr

/-- A named record. -/
structure Record where
  name : String
  role : Role
  fields : List Field
  deriving DecidableEq, Repr

namespace Role

/-- The name of a role. -/
def name : Role → String
  | request => "request"
  | response => "response"
  | event => "event"

/-- What the names of records of a role end in. -/
def ending : Role → String
  | request => "Request"
  | response => "Response"
  | event => "EventEmittedResponse"

/-- What unnamed parameters are called, before their position. -/
def placeholder : Role → String
  | response => "result"
  | request | event => "param"

/-- The side of a call that a role is on. -/
def side : Role → Side
  | response => .output
  | request | event => .input

end Role

/-- A field as it is written. -/
def Field.text (field : Field) : String :=
  field.key ++ ": " ++ field.type

end AbiTypings
