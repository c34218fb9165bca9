import GraphConsole.Failure.Operand
import GraphConsole.Text.Lines

/-! The texts that operands make. Errors of the system, of a source and of a codec have a wording
of their own; all other operands are listed. -/

namespace GraphConsole.Wording

open GraphConsole.Text

def listed : List Json → List Char
  | [] => []
  | [operand] => operand.displayed
  | operands => '(' :: join [',', ' '] (operands.map Json.spelled) ++ [')']

def ofKey : List Json → List Char
  | [operand] => operand.spelled
  | operands => listed operands

/-- The text of a system error with number and text, and with one or two paths unless these are
null. -/
def ofSystem? : List Json → Option (List Char)
  | [number, text] => some (start number text)
  | [number, text, path] => some (start number text ++ place path .null)
  | [number, text, path, _] => some (start number text ++ place path .null)
  | [number, text, path, _, second] => some (start number text ++ place path second)
  | _ => none
where
  start (number text : Json) : List Char :=
    "[Errno ".toList ++ number.displayed ++ "] ".toList ++ text.displayed
  place : Json → Json → List Char
    | .null, _ => []
    | path, .null => ": ".toList ++ path.spelled
    | path, second => ": ".toList ++ path.spelled ++ " -> ".toList ++ second.spelled

def fileName? : Json → Option (List Char)
  | .string path => (splitAt '/' path.toList).getLast?
  | _ => none

/-- The number of a line; one beyond all files is told as -1. -/
def lineNumber? : Json → Option (List Char)
  | .integer number => some (intDigits (if fitsWord number then number else -1))
  | _ => none

def ofSource : List Json → List Char
  | [] => "None".toList
  | [message, place] => message.displayed ++ placeText (place.parts?.getD [])
  | message :: _ => message.displayed
where
  placeText : List Json → List Char
    | file :: line :: _ =>
        match fileName? file, lineNumber? line with
        | some file, some line => " (".toList ++ file ++ ", line ".toList ++ line ++ [')']
        | some file, none => " (".toList ++ file ++ [')']
        | none, some line => " (line ".toList ++ line ++ [')']
        | none, none => []
    | _ => []

def escaped (c : Char) : List Char :=
  if c.toNat < 0x100 then ['\\', 'x'] ++ hexDigits 2 c.toNat
  else if c.toNat < 0x10000 then ['\\', 'u'] ++ hexDigits 4 c.toNat
  else ['\\', 'U'] ++ hexDigits 8 c.toNat

/-- Which characters of a text a codec gives up on: one by its number, several by their range. -/
def stretch (subject : List Char) (start stop : Int) : List Char :=
  match if stop = start + 1 && 0 ≤ start then subject[start.toNat]? else none with
  | some c => "character '".toList ++ escaped c ++ "' in position ".toList ++ intDigits start
  | none =>
      "characters in position ".toList ++ intDigits start ++ '-' :: intDigits (stop - 1)

def ofEncoding? : List Json → Option (List Char)
  | [.string codec, .string subject, start, stop, .string reason] => do
      let start ← start.number?
      let stop ← stop.number?
      return '\'' :: codec.toList ++ "' codec can't encode ".toList
        ++ stretch subject.toList start stop ++ ": ".toList ++ reason.toList
  | _ => none

def ofMapping? : List Json → Option (List Char)
  | [.string subject, start, stop, .string reason] => do
      let start ← start.number?
      let stop ← stop.number?
      return "can't translate ".toList ++ stretch subject.toList start stop ++ ": ".toList
        ++ reason.toList
  | _ => none

end GraphConsole.Wording
