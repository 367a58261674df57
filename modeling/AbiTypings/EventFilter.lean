import AbiTypings.Dialect

/-!
# Event filters

How the filter of an event is written: as a call that takes the event's inputs in order, or as a
call that takes an object with its indexed inputs.
-/

namespace AbiTypings

/-- An input of an event. -/
structure EventParam where
  name : String
  type : String
  indexed : Bool
  deriving DecidableEq, Repr

/-- The filter of an event. -/
structure EventFilter where
  name : String
  params : List EventParam
  style : FilterStyle
  deriving DecidableEq, Repr

/-- A type that stands for all of itself beside other parts of a union: a union is put in
parentheses unless it begins with one. -/
def unionPart (type : String) : String :=
  if type.toList.contains '|' && type.toList.head? != some '(' then "(" ++ type ++ ")" else type

/-- The entry of an indexed input in a filter object: one value or a list of values. -/
def EventParam.filterText (p : EventParam) : String :=
  p.name ++ "?: " ++ unionPart p.type ++ " | " ++ unionPart p.type ++ "[]"

/-- The filter object of an event, with its indexed inputs only. -/
def filterObject (params : List EventParam) : String :=
  match params.filter (·.indexed) with
  | [] => "\x7b\x7d"
  | indexed => "\x7b " ++ "; ".intercalate (indexed.map EventParam.filterText) ++ " \x7d"

/-- The text of an event filter. -/
def EventFilter.text (filter : EventFilter) : String :=
  match filter.style with
  | .positional returns =>
    let params := filter.params.map fun p => p.name ++ ": " ++ p.type
    filter.name ++ "(" ++ ", ".intercalate params ++ "): " ++ returns
  | .optionsObject returns eventData =>
    filter.name ++ "(parameters: \x7b filter?: " ++ filterObject filter.params
      ++ "; fromBlock?: number; toBlock?: 'latest' | number; topics?: string[] \x7d"
      ++ ", callback?: (error: Error, event: " ++ eventData ++ ") => void): " ++ returns

end AbiTypings
