import AbiTypings.Record

/-!
# The registry of records

The records of one module so far. Names, in the order of their records, and shapes, each with the
position of the first record that has it, are kept beside the records so that both can be looked up.

A record of a request or response is shared by all who ask for the same fields, and keeps its first
name. The records of events are referred to by name from other modules, so they are only shared by
those who ask for the same name. A name that is taken by another record gets the least number from
two on that makes it a new one.
-/

namespace AbiTypings

/-- What a record looks like, apart from its name. -/
structure Shape where
  role : Role
  fields : List Field
  deriving DecidableEq, Repr

/-- The records of one module so far, and the members met so far. -/
structure Registry where
  records : List Record := []
  names : List String := []
  shapes : List (Shape × Nat) := []
  /-- The functions and constructors met so far, repeated names included. -/
  methods : List String := []
  /-- The events met so far, repeated names included. -/
  events : List String := []
  deriving DecidableEq, Repr

namespace Registry

/-- Whether a name is taken. -/
def isTaken (r : Registry) (name : String) : Bool :=
  r.names.contains name

/-! ## Look-up -/

/-- The record of a name, if it has the given shape. -/
def sameName? (r : Registry) (candidate : String) (shape : Shape) : Option String :=
  (r.names.idxOf? candidate).bind fun i =>
    (r.records[i]?).bind fun record =>
      if record.role = shape.role ∧ record.fields = shape.fields then some record.name else none

/-- The first record of a shape, unless it belongs to an event. -/
def sameShape? (r : Registry) (shape : Shape) : Option String :=
  if shape.role = .event then none
  else (r.shapes.lookup shape).bind fun i => (r.records[i]?).map (·.name)

/-- A record that can be shared. -/
def shared? (r : Registry) (candidate : String) (shape : Shape) : Option String :=
  (r.sameName? candidate shape).or (r.sameShape? shape)

/-- A name that is not taken: the candidate, or else the candidate with a number. Of as many numbers
as there are names and one more, one is free. -/
def unusedName (names : List String) (candidate : String) : String :=
  if names.contains candidate then
    match (List.range' 2 (names.length + 1)).find?
        fun n => !names.contains (candidate ++ toString n) with
    | some n => candidate ++ toString n
    | none => candidate
  else candidate

/-! ## Registration -/

/-- Append a record. -/
def push (r : Registry) (name : String) (shape : Shape) : Registry :=
  { r with
    records := r.records ++ [⟨name, shape.role, shape.fields⟩]
    names := r.names ++ [name]
    shapes :=
      if (r.shapes.lookup shape).isSome then r.shapes
      else r.shapes ++ [(shape, r.records.length)] }

/-- Register a record: the name it can be reached under, and the registry after that. -/
def add (r : Registry) (candidate : String) (role : Role) (fields : List Field) :
    String × Registry :=
  let shape : Shape := ⟨role, fields⟩
  match r.shared? candidate shape with
  | some name => (name, r)
  | none =>
    let name := unusedName r.names candidate
    (name, r.push name shape)

/-- Note that a function or constructor was met. -/
def noteMethod (r : Registry) (name : String) : Registry :=
  { r with methods := r.methods ++ [name] }

/-- Note that an event was met. -/
def noteEvent (r : Registry) (name : String) : Registry :=
  { r with events := r.events ++ [name] }

end Registry

/-! ## Computing with a registry -/

/-- A computation that registers records and may fail. What was registered before that stays. -/
abbrev Registering (α : Type) := ExceptT Fault (StateM Registry) α

/-- A result that does not depend on what is registered. -/
def Registering.ofExcept {α : Type} (result : Except Fault α) : Registering α :=
  ExceptT.mk (pure result)

/-- Register a record and return its name. -/
def registerRecord (candidate : String) (role : Role) (fields : List Field) : Registering String :=
  modifyGet fun r => r.add candidate role fields

end AbiTypings
