import GraphConsole.Json.Value
import GraphConsole.Text.Blank
import GraphConsole.Text.Decimal
import GraphConsole.Text.Lines

/-! Checking JSON values against the shape a record asks for. All complaints are gathered, in the
order of the record's fields; fields that no record asks for are ignored. -/

namespace GraphConsole.Json

open GraphConsole.Text

inductive Step
  | field (name : String)
  | item (index : Nat)
deriving DecidableEq, Repr

inductive Complaint
  | missing
  | stringType
  | modelType
  | listType
  | choice
  | intType
  | intParsing
  | intParsingSize
  | boolType
  | boolParsing
  | timeType
  | timeParsing
  | timeFromDateParsing
  | pathType
deriving DecidableEq, Repr

structure Issue where
  place : List Step
  complaint : Complaint
deriving DecidableEq, Repr

inductive Checked (α : Type)
  | good (value : α)
  | bad (issues : List Issue)

namespace Checked

def map (f : α → β) : Checked α → Checked β
  | .good value => .good (f value)
  | .bad issues => .bad issues

/-- Both checks are made, and the complaints of both count. -/
def seq : Checked (α → β) → Checked α → Checked β
  | .good f, .good value => .good (f value)
  | .good _, .bad issues => .bad issues
  | .bad issues, .good _ => .bad issues
  | .bad first, .bad second => .bad (first ++ second)

instance : Applicative Checked where
  pure := .good
  map := map
  seq f value := seq f (value ())

def under (step : Step) : Checked α → Checked α
  | .good value => .good value
  | .bad issues => .bad (issues.map fun issue => ⟨step :: issue.place, issue.complaint⟩)

end Checked

abbrev Fields := List (String × Json)

def complain (complaint : Complaint) : Checked α :=
  .bad [⟨[], complaint⟩]

def text : Json → Checked String
  | .string value => .good value
  | _ => complain .stringType

def record (build : Fields → Checked α) : Json → Checked α
  | .object fields => build fields
  | _ => complain .modelType

def required (name : String) (decode : Json → Checked α) (fields : Fields) : Checked α :=
  match fields.lookup name with
  | some value => (decode value).under (.field name)
  | none => .bad [⟨[.field name], .missing⟩]

def defaulted (name : String) (fallback : α) (decode : Json → Checked α) (fields : Fields) :
    Checked α :=
  match fields.lookup name with
  | some value => (decode value).under (.field name)
  | none => .good fallback

def nullable (decode : Json → Checked α) : Json → Checked (Option α)
  | .null => .good none
  | value => (decode value).map some

def optional (name : String) (decode : Json → Checked α) : Fields → Checked (Option α) :=
  defaulted name none (nullable decode)

def itemsFrom (index : Nat) (decode : Json → Checked α) : List Json → Checked (List α)
  | [] => .good []
  | item :: rest =>
      List.cons <$> (decode item).under (.item index) <*> itemsFrom (index + 1) decode rest

def listOf (decode : Json → Checked α) : Json → Checked (List α)
  | .array items => itemsFrom 0 decode items
  | _ => complain .listType

def oneOf (choices : List (String × α)) : Json → Checked α
  | .string value =>
      match choices.lookup value with
      | some meaning => .good meaning
      | none => complain .choice
  | _ => complain .choice

/-- How a text reads as a number: it is one, it is one that is too long, or it is none. -/
inductive Numeral
  | number (value : Int)
  | tooLong
  | none
deriving DecidableEq, Repr

/-- The characters, a minus among them, that a number may have. -/
def numeralLimit : Nat := 4300

/-- Digits without needless zeros in front, perhaps behind a minus. A text that starts with more of
them than a number may have is too long, whatever follows. -/
def readNumeral (s : List Char) : Numeral :=
  let (sign, rest) := match s with
    | '-' :: rest => (['-'], rest)
    | rest => ([], rest)
  match rest with
  | [] => .none
  | ['0'] => .number 0
  | '0' :: _ => .none
  | rest =>
      let digits := rest.takeWhile isDigit
      if digits.isEmpty then .none
      else if numeralLimit < sign.length + digits.length then .tooLong
      else if digits.length < rest.length then .none
      else .number (if sign.isEmpty then ofDigits digits else -(ofDigits digits : Int))

/-- Zeros in front, joined by any underscores, go; a zero stays in front of a point, and the last
character stays always. A minus is only found behind them. -/
def afterZeros (last : Char) : List Char → Option (List Char)
  | [] => some [last]
  | c :: rest =>
      if c = '0' || c = '_' then afterZeros c rest
      else if isDigit c || c = '-' then some (c :: rest)
      else if c = '.' then some (last :: c :: rest)
      else none

def withoutZeros : List Char → Option (List Char)
  | '0' :: rest => afterZeros '0' rest
  | c :: rest => if isDigit c || c = '-' then some (c :: rest) else none
  | [] => none

/-- A number without a fraction of one zero or more. -/
def withoutFraction (s : List Char) : List Char :=
  match cutAt '.' s with
  | some (whole, fraction) =>
      if !fraction.isEmpty && fraction.all (· == '0') then whole else s
  | none => s

def hasGap : List Char → Bool
  | '_' :: '_' :: _ => true
  | _ :: rest => hasGap rest
  | [] => false

/-- Single underscores may stand inside a number. -/
def withoutUnderscores (s : List Char) : List Char :=
  if s.head? == some '_' || s.getLast? == some '_' || hasGap s then s
  else s.filter fun c => c != '_'

/-- What is left of a text when all that may surround the digits is taken away: spaces, a plus,
zeros in front, a fraction of zeros, and underscores between the digits. -/
def plainNumeral (s : List Char) : Option (List Char) :=
  let unsigned := match trimSpaces s with
    | '+' :: '-' :: _ => none
    | '+' :: rest => some rest
    | rest => some rest
  (unsigned.bind withoutZeros).map fun s => withoutUnderscores (withoutFraction s)

def Numeral.toChecked : Numeral → Checked Int
  | .number value => .good value
  | .tooLong => complain .intParsingSize
  | .none => complain .intParsing

def integerText (s : List Char) : Checked Int :=
  match readNumeral s with
  | .none =>
      match plainNumeral s with
      | some plain => (readNumeral plain).toChecked
      | none => complain .intParsing
  | read => read.toChecked

def int : Json → Checked Int
  | .integer value => .good value
  | .bool value => .good (if value then 1 else 0)
  | .string value => integerText value.toList
  | _ => complain .intType

def lowerAscii (s : String) : String :=
  String.ofList (s.toList.map Char.toLower)

def flag : Json → Checked Bool
  | .bool value => .good value
  | .integer 0 => .good false
  | .integer 1 => .good true
  | .integer value => complain (if fitsWord value then .boolParsing else .boolType)
  | .string value =>
      let word := lowerAscii value
      if ["1", "true", "t", "yes", "y", "on"].contains word then .good true
      else if ["0", "false", "f", "no", "n", "off"].contains word then .good false
      else complain .boolParsing
  | _ => complain .boolType

end GraphConsole.Json
