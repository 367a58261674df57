import AbiTypings.Binary64.Basic

/-!
# JSON values

A number is an integer when it is written as one and fits 64 bits, and a floating point number
otherwise. The members of an object are kept in the order of their keys, each key once
(`Json.insert`), so that two objects with the same members are equal.
-/

namespace AbiTypings

/-- A JSON value. -/
inductive Json where
  | null
  | bool (value : Bool)
  | int (value : Int)
  | real (value : Binary64)
  | str (value : String)
  | arr (items : List Json)
  | obj (members : List (String × Json))

namespace Json

/-- Put a member into an object at its place. A member of the same key is replaced. -/
def insert (key : String) (value : Json) : List (String × Json) → List (String × Json)
  | [] => [(key, value)]
  | (k, v) :: rest =>
    if key = k then (key, value) :: rest
    else if key < k then (key, value) :: (k, v) :: rest
    else (k, v) :: insert key value rest

/-- The member of an object under a key. -/
def field? (key : String) : Json → Option Json
  | obj members => members.lookup key
  | _ => none

end Json
end AbiTypings
