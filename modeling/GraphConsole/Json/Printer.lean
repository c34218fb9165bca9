import GraphConsole.Json.Value
import GraphConsole.Text.Decimal
import GraphConsole.Text.Quoted

/-! JSON texts in ASCII: on one line, and indented by two blanks a level. -/

namespace GraphConsole.Json

open GraphConsole.Text

def escapeUnit (n : Nat) : List Char :=
  ['\\', 'u'] ++ hexDigits 4 n

/-- Whatever is not a printing ASCII character is written as one or two UTF-16 units. -/
def escapeChar (c : Char) : List Char :=
  if c = '"' then ['\\', '"']
  else if c = '\\' then ['\\', '\\']
  else if c = '\n' then ['\\', 'n']
  else if c = '\r' then ['\\', 'r']
  else if c = '\t' then ['\\', 't']
  else if c = '\x0c' then ['\\', 'f']
  else if c = '\x08' then ['\\', 'b']
  else if 0x20 ≤ c.toNat && c.toNat ≤ 0x7E then [c]
  else if c.toNat < 0x10000 then escapeUnit c.toNat
  else
    let above := c.toNat - 0x10000
    escapeUnit (0xD800 + above / 1024) ++ escapeUnit (0xDC00 + above % 1024)

def printString (s : String) : List Char :=
  '"' :: s.toList.flatMap escapeChar ++ ['"']

mutual

def printLine : Json → List Char
  | .null => "null".toList
  | .bool true => "true".toList
  | .bool false => "false".toList
  | .integer value => intDigits value
  | .decimal spelling => spelling.toList
  | .string value => printString value
  | .array items => '[' :: printLineItems items ++ [']']
  | .object fields => '{' :: printLineFields fields ++ ['}']

def printLineItems : List Json → List Char
  | [] => []
  | [item] => printLine item
  | item :: rest => printLine item ++ [',', ' '] ++ printLineItems rest

def printLineFields : List (String × Json) → List Char
  | [] => []
  | [(key, value)] => printString key ++ [':', ' '] ++ printLine value
  | (key, value) :: rest =>
      printString key ++ [':', ' '] ++ printLine value ++ [',', ' '] ++ printLineFields rest

end

def newLine (depth : Nat) : List Char :=
  '\n' :: List.replicate (2 * depth) ' '

mutual

def printIndented (depth : Nat) : Json → List Char
  | .null => "null".toList
  | .bool true => "true".toList
  | .bool false => "false".toList
  | .integer value => intDigits value
  | .decimal spelling => spelling.toList
  | .string value => printString value
  | .array [] => ['[', ']']
  | .array items => '[' :: printIndentedItems (depth + 1) items ++ newLine depth ++ [']']
  | .object [] => ['{', '}']
  | .object fields => '{' :: printIndentedFields (depth + 1) fields ++ newLine depth ++ ['}']

def printIndentedItems (depth : Nat) : List Json → List Char
  | [] => []
  | [item] => newLine depth ++ printIndented depth item
  | item :: rest =>
      newLine depth ++ printIndented depth item ++ [','] ++ printIndentedItems depth rest

def printIndentedFields (depth : Nat) : List (String × Json) → List Char
  | [] => []
  | [(key, value)] =>
      newLine depth ++ printString key ++ [':', ' '] ++ printIndented depth value
  | (key, value) :: rest =>
      newLine depth ++ printString key ++ [':', ' '] ++ printIndented depth value ++ [',']
        ++ printIndentedFields depth rest

end

/-- What keeps a value from being printed: it nests deeper than there is room for, or it has an
integer that is too long. -/
inductive Overrun
  | depth
  | digits
deriving DecidableEq, Repr

mutual

/-- What keeps a value from being printed first, in the order of its text. An array or an object
takes one level of the room, and what stands in it takes what it takes below. -/
def overrun? : Nat → Json → Option Overrun
  | 0, _ => some .depth
  | _ + 1, .integer value => if isConvertible value then none else some .digits
  | room + 1, .array items => overrunOfItems? room items
  | room + 1, .object fields => overrunOfFields? room fields
  | _ + 1, _ => none

def overrunOfItems? (room : Nat) : List Json → Option Overrun
  | [] => none
  | item :: rest => (overrun? room item).or (overrunOfItems? room rest)

def overrunOfFields? (room : Nat) : List (String × Json) → Option Overrun
  | [] => none
  | (_, value) :: rest => (overrun? room value).or (overrunOfFields? room rest)

end

def toLine (value : Json) : String :=
  String.ofList (printLine value)

def toIndented (value : Json) : String :=
  String.ofList (printIndented 0 value)

/-- The indented text of a value, if nothing keeps it from being printed. -/
def print (room : Nat) (value : Json) : Except Overrun String :=
  match overrun? room value with
  | none => .ok value.toIndented
  | some overrun => .error overrun

end GraphConsole.Json
