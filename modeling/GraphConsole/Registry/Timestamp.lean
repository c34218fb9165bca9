import GraphConsole.Json.Decode
import GraphConsole.Text.Decimal
import GraphConsole.Text.Blank
import GraphConsole.Text.Fraction

/-! Points in time as the registry writes them. -/

namespace GraphConsole.Registry

open GraphConsole.Text

/-- A date and a time of day, with the distance from universal time in minutes if it is known. -/
structure Timestamp where
  year : Nat
  month : Nat
  day : Nat
  hour : Nat
  minute : Nat
  second : Nat
  microsecond : Nat
  offset : Option Int
deriving DecidableEq, Repr

namespace Timestamp

def isLeap (year : Nat) : Bool :=
  year % 4 == 0 && (year % 100 != 0 || year % 400 == 0)

def daysInMonth (year month : Nat) : Nat :=
  if month = 2 then (if isLeap year then 29 else 28)
  else if month = 4 || month = 6 || month = 9 || month = 11 then 30
  else 31

def digits? (width : Nat) (s : List Char) : Option (Nat × List Char) :=
  let digits := s.take width
  if digits.length = width && digits.all isDigit then some (ofDigits digits, s.drop width)
  else none

def expect (c : Char) : List Char → Option (List Char)
  | [] => none
  | first :: rest => if first = c then some rest else none

def date? (s : List Char) : Option ((Nat × Nat × Nat) × List Char) := do
  let (year, s) ← digits? 4 s
  let s ← expect '-' s
  let (month, s) ← digits? 2 s
  let s ← expect '-' s
  let (day, s) ← digits? 2 s
  if 1 ≤ year && 1 ≤ month && month ≤ 12 && 1 ≤ day && day ≤ daysInMonth year month then
    return ((year, month, day), s)
  else none

/-- Seconds may be missing; of a fraction the first six digits count. -/
def seconds? : List Char → Option ((Nat × Nat) × List Char)
  | ':' :: s => do
      let (second, s) ← digits? 2 s
      if 60 ≤ second then none
      else match s with
        | [] => return ((second, 0), [])
        | mark :: rest =>
            if mark = '.' || mark = ',' then
              match rest.takeWhile isDigit with
              | [] => none
              | fraction =>
                  let micros := (fraction ++ List.replicate 6 '0').take 6
                  return ((second, ofDigits micros), rest.dropWhile isDigit)
            else return ((second, 0), mark :: rest)
  | s => some ((0, 0), s)

def offset? : List Char → Option (Option Int)
  | [] => some none
  | ['Z'] => some (some 0)
  | ['z'] => some (some 0)
  | sign :: s =>
      if sign = '+' || sign = '-' || sign = '−' then do
        let (hours, s) ← digits? 2 s
        let s := match s with
          | ':' :: rest => rest
          | rest => rest
        let (minutes, s) ← digits? 2 s
        if s.isEmpty && hours < 24 && minutes < 60 then
          let distance : Int := (hours * 60 + minutes : Nat)
          return some (if sign = '+' then distance else -distance)
        else none
      else none

def isDateEnd (c : Char) : Bool :=
  c == 'T' || c == 't' || c == ' ' || c == '_'

/-- A date alone stands for its midnight. -/
def ofCalendar? (s : List Char) : Option Timestamp := do
  let ((year, month, day), s) ← date? s
  match s with
  | [] => return ⟨year, month, day, 0, 0, 0, 0, none⟩
  | mark :: s =>
      if isDateEnd mark then
        let (hour, s) ← digits? 2 s
        let s ← expect ':' s
        let (minute, s) ← digits? 2 s
        let ((second, microsecond), s) ← seconds? s
        let offset ← offset? s
        if hour < 24 && minute < 60 then
          return ⟨year, month, day, hour, minute, second, microsecond, offset⟩
        else none
      else none

/-- The civil date of a number of days since 1 January 1970, counted in eras of 400 years that
start in March. -/
def dateOfDays (days : Int) : Int × Nat × Nat :=
  let shifted := days + 719468
  let era := shifted.fdiv 146097
  let dayOfEra := (shifted - era * 146097).toNat
  let yearOfEra :=
    (dayOfEra - dayOfEra / 1460 + dayOfEra / 36524 - dayOfEra / 146096) / 365
  let dayOfYear := dayOfEra - (365 * yearOfEra + yearOfEra / 4 - yearOfEra / 100)
  let monthFromMarch := (5 * dayOfYear + 2) / 153
  let day := dayOfYear - (153 * monthFromMarch + 2) / 5 + 1
  let month := if monthFromMarch < 10 then monthFromMarch + 3 else monthFromMarch - 9
  let year := era * 400 + yearOfEra + (if month ≤ 2 then 1 else 0)
  (year, month, day)

/-- From this magnitude on, a Unix time counts milliseconds. -/
def millisecondsFrom : Nat := 20000000000

def unixParts (count : Int) : Int × Nat :=
  if count.natAbs ≤ millisecondsFrom then (count, 0)
  else (count.fdiv 1000, (count.fmod 1000).toNat * 1000)

/-- Unix time in universal time, and microseconds beyond it. Only the years 1 to 9999 can be
told. -/
def ofUnix? (count : Int) (beyond : Nat) : Option Timestamp :=
  let (seconds, micros) := unixParts count
  let seconds := seconds + (micros + beyond) / 1000000
  let micros := (micros + beyond) % 1000000
  if seconds < -62135596800 || 253402300799 < seconds then none
  else
    let (year, month, day) := dateOfDays (seconds.fdiv 86400)
    let clock := (seconds.fmod 86400).toNat
    some ⟨year.toNat, month, day, clock / 3600, clock / 60 % 60, clock % 60, micros, some 0⟩

def decimal? (s : List Char) : Option Fraction :=
  match cutAt '.' s with
  | none => none
  | some (whole, fraction) =>
      let digits := whole ++ fraction
      if digits.isEmpty || !digits.all isDigit then none
      else some (Fraction.toDouble ⟨ofDigits digits, Nat.pow 10 fraction.length⟩)

/-- A decimal Unix time: the whole seconds before it, and the nearest number of microseconds. -/
def ofDecimal? (negative : Bool) (size : Fraction) : Option Timestamp :=
  let size := if size.exceeds millisecondsFrom then size.dividedBy 1000 else size
  let seconds : Int := if negative then -size.ceil else size.floor
  let rest := if negative then size.below size.ceil else size.beyond size.floor
  ofUnix? seconds (rest.times 1000000).nearest

def ofUnixText? (s : List Char) : Option Timestamp :=
  let (negative, digits) := match s with
    | '-' :: rest => (true, rest)
    | '+' :: rest => (false, rest)
    | rest => (false, rest)
  match decimal? digits with
  | some size => ofDecimal? negative size
  | none =>
      if digits.isEmpty || !digits.all isDigit then none
      else ofUnix? (if negative then -(ofDigits digits : Int) else ofDigits digits) 0

/-- A whole number that is no Unix time is still a number, unless it is beyond all of double
precision. -/
def ofJson : Json → Json.Checked Timestamp
  | .string value =>
      match (ofCalendar? value.toList).orElse fun _ => ofUnixText? value.toList with
      | some time => .good time
      | none => Json.complain .timeFromDateParsing
  | .integer count =>
      match ofUnix? count 0 with
      | some time => .good time
      | none => Json.complain (if fitsDouble count then .timeParsing else .timeType)
  | _ => Json.complain .timeType

def offsetText (minutes : Int) : List Char :=
  (if minutes < 0 then '-' else '+') :: paddedDigits 2 (minutes.natAbs / 60)
    ++ ':' :: paddedDigits 2 (minutes.natAbs % 60)

def clockText (time : Timestamp) : List Char :=
  paddedDigits 2 time.hour ++ ':' :: paddedDigits 2 time.minute ++ ':'
    :: paddedDigits 2 time.second

/-- The form `YYYY-MM-DDTHH:MM:SS`, with six digits of a fraction unless it is zero, and the
offset if it is known. -/
def toIso (time : Timestamp) : List Char :=
  paddedDigits 4 time.year ++ '-' :: paddedDigits 2 time.month ++ '-' :: paddedDigits 2 time.day
    ++ 'T' :: clockText time
    ++ (if time.microsecond = 0 then [] else '.' :: paddedDigits 6 time.microsecond)
    ++ (match time.offset with
      | none => []
      | some 0 => ['Z']
      | some minutes => offsetText minutes)

/-- For people: blanks between the parts, no zeros before the year, and the name of the zone. -/
def toReadable (time : Timestamp) : List Char :=
  trim (natDigits time.year ++ '-' :: paddedDigits 2 time.month ++ '-' :: paddedDigits 2 time.day
    ++ ' ' :: clockText time ++ ' ' :: (match time.offset with
      | none => []
      | some 0 => ['U', 'T', 'C']
      | some minutes => offsetText minutes))

def toJson (time : Timestamp) : Json :=
  .string (String.ofList time.toIso)

end Timestamp

end GraphConsole.Registry
