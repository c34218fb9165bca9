import GraphConsole.Json.Value
import GraphConsole.Text.Decimal

/-! Reading JSON texts. -/

namespace GraphConsole.Json

open GraphConsole.Text

inductive Container
  | array
  | object
deriving DecidableEq, Repr

/-- Why a text gives no value: it is no JSON text, or it goes beyond a limit of the reader. -/
inductive Refusal
  | malformed
  | tooDeep (container : Container)
  | integerTooLong (digits : Nat)
deriving DecidableEq, Repr

/-- How deep arrays and objects may nest, and how many digits an integer may have. -/
structure Limits where
  depth : Nat
  digits : Nat

def Limits.standard : Limits := ⟨985, digitLimit⟩

def isSpace (c : Char) : Bool :=
  c == ' ' || c == '\t' || c == '\n' || c == '\r'

def skipSpace (s : List Char) : List Char :=
  s.dropWhile isSpace

def hexValue? (c : Char) : Option Nat :=
  let n := c.toNat
  if 48 ≤ n && n ≤ 57 then some (n - 48)
  else if 97 ≤ n && n ≤ 102 then some (n - 87)
  else if 65 ≤ n && n ≤ 70 then some (n - 55)
  else none

def readUnit : List Char → Option (Nat × List Char)
  | a :: b :: c :: d :: rest => do
      let a ← hexValue? a
      let b ← hexValue? b
      let c ← hexValue? c
      let d ← hexValue? d
      return (((a * 16 + b) * 16 + c) * 16 + d, rest)
  | _ => none

def isHighHalf (unit : Nat) : Bool :=
  0xD800 ≤ unit && unit ≤ 0xDBFF

def isLowHalf (unit : Nat) : Bool :=
  0xDC00 ≤ unit && unit ≤ 0xDFFF

def readLowHalf : List Char → Option (Nat × List Char)
  | '\\' :: 'u' :: rest =>
      match readUnit rest with
      | some (unit, rest) => if isLowHalf unit then some (unit, rest) else none
      | none => none
  | _ => none

/-- The character of a unit; a half without its partner stands for no character and reads as the
replacement character. -/
def readEscapedUnit (s : List Char) : Option (Char × List Char) :=
  match readUnit s with
  | none => none
  | some (unit, rest) =>
      if isHighHalf unit then
        match readLowHalf rest with
        | some (low, rest) =>
            some (Char.ofNat (0x10000 + (unit - 0xD800) * 1024 + (low - 0xDC00)), rest)
        | none => some ('\uFFFD', rest)
      else if isLowHalf unit then some ('\uFFFD', rest)
      else some (Char.ofNat unit, rest)

def readEscape : List Char → Option (Char × List Char)
  | '"' :: rest => some ('"', rest)
  | '\\' :: rest => some ('\\', rest)
  | '/' :: rest => some ('/', rest)
  | 'b' :: rest => some ('\x08', rest)
  | 'f' :: rest => some ('\x0c', rest)
  | 'n' :: rest => some ('\n', rest)
  | 'r' :: rest => some ('\r', rest)
  | 't' :: rest => some ('\t', rest)
  | 'u' :: rest => readEscapedUnit rest
  | _ => none

def readString : (fuel : Nat) → List Char → Option (List Char × List Char)
  | 0, _ => none
  | _ + 1, [] => none
  | _ + 1, '"' :: rest => some ([], rest)
  | fuel + 1, '\\' :: rest =>
      match readEscape rest with
      | none => none
      | some (c, rest) => (readString fuel rest).map fun (text, rest) => (c :: text, rest)
  | fuel + 1, c :: rest =>
      if c.toNat < 0x20 then none
      else (readString fuel rest).map fun (text, rest) => (c :: text, rest)

/-- The digits before a fraction: a zero, or digits that do not start with one. -/
def readWhole : List Char → Option (List Char × List Char)
  | '0' :: rest => some (['0'], rest)
  | s =>
      match s.takeWhile isDigit with
      | [] => none
      | digits => some (digits, s.dropWhile isDigit)

def readFraction : List Char → List Char × List Char
  | '.' :: rest =>
      match rest.takeWhile isDigit with
      | [] => ([], '.' :: rest)
      | digits => ('.' :: digits, rest.dropWhile isDigit)
  | s => ([], s)

def readExponentSign : List Char → List Char × List Char
  | '+' :: rest => (['+'], rest)
  | '-' :: rest => (['-'], rest)
  | s => ([], s)

def readExponent : List Char → List Char × List Char
  | [] => ([], [])
  | mark :: rest =>
      if mark = 'e' || mark = 'E' then
        let (sign, digits) := readExponentSign rest
        match digits.takeWhile isDigit with
        | [] => ([], mark :: rest)
        | power => (mark :: sign ++ power, digits.dropWhile isDigit)
      else ([], mark :: rest)

def readUnsigned (limits : Limits) (negative : Bool) (s : List Char) :
    Except Refusal (Json × List Char) :=
  match readWhole s with
  | none => .error .malformed
  | some (whole, rest) =>
      let (fraction, rest) := readFraction rest
      let (exponent, rest) := readExponent rest
      if fraction.isEmpty && exponent.isEmpty then
        if limits.digits < whole.length then .error (.integerTooLong whole.length)
        else
          let value : Int := ofDigits whole
          .ok (.integer (if negative then -value else value), rest)
      else
        let sign := if negative then ['-'] else []
        .ok (.decimal (String.ofList (sign ++ whole ++ fraction ++ exponent)), rest)

def readNumber (limits : Limits) : List Char → Except Refusal (Json × List Char)
  | '-' :: 'I' :: 'n' :: 'f' :: 'i' :: 'n' :: 'i' :: 't' :: 'y' :: rest =>
      .ok (.decimal "-Infinity", rest)
  | '-' :: rest => readUnsigned limits true rest
  | s => readUnsigned limits false s

def readText (s : List Char) : Except Refusal (String × List Char) :=
  match readString (s.length + 1) s with
  | none => .error .malformed
  | some (text, rest) => .ok (String.ofList text, rest)

mutual

/-- One value at the start of the text, within `room` further levels of nesting. -/
def readValue (limits : Limits) :
    (fuel room : Nat) → List Char → Except Refusal (Json × List Char)
  | 0, _, _ => .error .malformed
  | _ + 1, _, '"' :: rest =>
      match readText rest with
      | .ok (text, rest) => .ok (.string text, rest)
      | .error refusal => .error refusal
  | _ + 1, 0, '[' :: _ => .error (.tooDeep .array)
  | fuel + 1, room + 1, '[' :: rest =>
      match skipSpace rest with
      | ']' :: rest => .ok (.array [], rest)
      | rest =>
          match readItems limits fuel room rest with
          | .ok (items, rest) => .ok (.array items, rest)
          | .error refusal => .error refusal
  | _ + 1, 0, '{' :: _ => .error (.tooDeep .object)
  | fuel + 1, room + 1, '{' :: rest =>
      match skipSpace rest with
      | '}' :: rest => .ok (.object [], rest)
      | rest =>
          match readFields limits fuel room rest with
          | .ok (fields, rest) => .ok (ofFields fields, rest)
          | .error refusal => .error refusal
  | _ + 1, _, 'n' :: 'u' :: 'l' :: 'l' :: rest => .ok (.null, rest)
  | _ + 1, _, 't' :: 'r' :: 'u' :: 'e' :: rest => .ok (.bool true, rest)
  | _ + 1, _, 'f' :: 'a' :: 'l' :: 's' :: 'e' :: rest => .ok (.bool false, rest)
  | _ + 1, _, 'N' :: 'a' :: 'N' :: rest => .ok (.decimal "NaN", rest)
  | _ + 1, _, 'I' :: 'n' :: 'f' :: 'i' :: 'n' :: 'i' :: 't' :: 'y' :: rest =>
      .ok (.decimal "Infinity", rest)
  | _ + 1, _, s => readNumber limits s

def readItems (limits : Limits) :
    (fuel room : Nat) → List Char → Except Refusal (List Json × List Char)
  | 0, _, _ => .error .malformed
  | fuel + 1, room, s =>
      match readValue limits fuel room s with
      | .error refusal => .error refusal
      | .ok (item, rest) =>
          match skipSpace rest with
          | ']' :: rest => .ok ([item], rest)
          | ',' :: rest =>
              match readItems limits fuel room (skipSpace rest) with
              | .ok (items, rest) => .ok (item :: items, rest)
              | .error refusal => .error refusal
          | _ => .error .malformed

def readFields (limits : Limits) :
    (fuel room : Nat) → List Char → Except Refusal (List (String × Json) × List Char)
  | 0, _, _ => .error .malformed
  | fuel + 1, room, '"' :: s =>
      match readText s with
      | .error refusal => .error refusal
      | .ok (key, rest) =>
          match skipSpace rest with
          | ':' :: rest =>
              match readValue limits fuel room (skipSpace rest) with
              | .error refusal => .error refusal
              | .ok (value, rest) =>
                  match skipSpace rest with
                  | '}' :: rest => .ok ([(key, value)], rest)
                  | ',' :: rest =>
                      match readFields limits fuel room (skipSpace rest) with
                      | .ok (fields, rest) => .ok ((key, value) :: fields, rest)
                      | .error refusal => .error refusal
                  | _ => .error .malformed
          | _ => .error .malformed
  | _ + 1, _, _ => .error .malformed

end

def read (limits : Limits) (s : List Char) : Except Refusal Json :=
  match readValue limits (2 * s.length + 2) limits.depth (skipSpace s) with
  | .error refusal => .error refusal
  | .ok (value, rest) =>
      match skipSpace rest with
      | [] => .ok value
      | _ => .error .malformed

end GraphConsole.Json
