import GraphConsole.Entries

/-! JSON values. The fields of an object keep their order. -/

namespace GraphConsole

/-- A number with a fraction or an exponent keeps its spelling. -/
inductive Json
  | null
  | bool (value : Bool)
  | integer (value : Int)
  | decimal (spelling : String)
  | string (value : String)
  | array (items : List Json)
  | object (fields : List (String × Json))

namespace Json

/-- An object in which the last value given for a key counts. -/
def ofFields (fields : List (String × Json)) : Json :=
  .object (fields.foldl (fun seen (key, value) => Entries.put key value seen) [])

def field? (key : String) : Json → Option Json
  | .object fields => fields.lookup key
  | _ => none

def string? : Json → Option String
  | .string value => some value
  | _ => none

def ofOption (f : α → Json) : Option α → Json
  | none => .null
  | some value => f value

def optionalString : Option String → Json :=
  ofOption .string

def strings (values : List String) : Json :=
  .array (values.map .string)

end Json

end GraphConsole
