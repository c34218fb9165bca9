import GraphConsole.Json.Value
import GraphConsole.Text.Decimal
import GraphConsole.Text.Quoted

/-! The operands of incidents: values of any kind, and how they read in a text. -/

namespace GraphConsole

open GraphConsole.Text

mutual

def Json.spelled : Json → List Char
  | .null => "None".toList
  | .bool true => "True".toList
  | .bool false => "False".toList
  | .integer value => intDigits value
  | .decimal spelling => spelling.toList
  | .string value => quote value.toList
  | .array items => '[' :: Json.spelledItems items ++ [']']
  | .object fields => '\x7b' :: Json.spelledFields fields ++ ['\x7d']

def Json.spelledItems : List Json → List Char
  | [] => []
  | [item] => item.spelled
  | item :: rest => item.spelled ++ [',', ' '] ++ Json.spelledItems rest

def Json.spelledFields : List (String × Json) → List Char
  | [] => []
  | [(key, value)] => quote key.toList ++ [':', ' '] ++ value.spelled
  | (key, value) :: rest =>
      quote key.toList ++ [':', ' '] ++ value.spelled ++ [',', ' '] ++ Json.spelledFields rest

end

namespace Json

def displayed : Json → List Char
  | .string value => value.toList
  | value => value.spelled

/-- A number; truth values count as one and zero. -/
def number? : Json → Option Int
  | .integer value => some value
  | .bool true => some 1
  | .bool false => some 0
  | _ => none

def parts? : Json → Option (List Json)
  | .array items => some items
  | .string value => some (value.toList.map fun c => .string (String.ofList [c]))
  | .object fields => some (fields.map fun (key, _) => .string key)
  | _ => none

def kindName : Json → String
  | .null => "NoneType"
  | .bool _ => "bool"
  | .integer _ => "int"
  | .decimal _ => "float"
  | .string _ => "str"
  | .array _ => "list"
  | .object _ => "dict"

end Json

end GraphConsole
