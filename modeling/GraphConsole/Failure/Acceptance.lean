import GraphConsole.Failure.Incident

/-! Reports of incidents from outside. Some classes have a second name, some belong to a narrower
class for what they report, and some accept certain operands only: where they do not, the incident
is the refusal itself. -/

namespace GraphConsole.Incident

open GraphConsole.Text

def properName : String → String
  | "IOError" => "OSError"
  | "EnvironmentError" => "OSError"
  | name => name

/-- A system error that comes with its number and text belongs to the class of the number. -/
def narrowName (name : String) : List Json → String
  | number :: _ :: rest =>
      if name = "OSError" && rest.length ≤ 3 then
        match number.number? with
        | some number => systemName number
        | none => name
      else name
  | _ => name

def wrongType (message : String) : Incident :=
  ⟨"TypeError", [.string message], []⟩

def wrongValue (message : String) : Incident :=
  ⟨"ValueError", [.string message], []⟩

/-- The operands of an interrupted transfer: in the place of a path it may tell how much was
written, and that is not a part of the report. -/
def transferOperands (operands : List Json) : Except Incident (List Json) :=
  match operands with
  | number :: text :: written :: rest =>
      if 2 < rest.length then .ok operands
      else match written.number? with
        | none => .ok operands
        | some written =>
            if fitsWord written then .ok [number, text]
            else .error (wrongValue "cannot fit 'int' into an index-sized integer")
  | _ => .ok operands

/-- Why the place of an error in a source is refused: it needs file, line, column and text, and may
have two numbers more. -/
def placeRefusal? (place : Json) : Option Incident :=
  match place.parts? with
  | none => some (wrongType ("'" ++ place.kindName ++ "' object is not iterable"))
  | some parts =>
      let count := "(" ++ natText parts.length ++ " given)"
      if parts.length < 4 then some (wrongType ("function takes at least 4 arguments " ++ count))
      else if 6 < parts.length then
        some (wrongType ("function takes at most 6 arguments " ++ count))
      else if parts.length = 5 then
        some (wrongType "end_offset must be provided when end_lineno is provided")
      else none

inductive Role
  | text (position : Nat)
  | octets
  | position

def roleRefusal? : Role × Json → Option Incident
  | (.text _, .string _) => none
  | (.text position, .null) =>
      some (wrongType ("argument " ++ natText position ++ " must be str, not None"))
  | (.text position, value) =>
      some (wrongType ("argument " ++ natText position ++ " must be str, not " ++ value.kindName))
  | (.octets, _) => none
  | (.position, value) =>
      match value.number? with
      | none => some (wrongType ("'" ++ value.kindName
          ++ "' object cannot be interpreted as an integer"))
      | some number =>
          if fitsWord number then none
          else some ⟨"OverflowError",
            [.string "Python int too large to convert to C ssize_t"], []⟩

def rolesRefusal? (roles : List Role) (operands : List Json) : Option Incident :=
  if roles.length = operands.length then (roles.zip operands).findSome? roleRefusal?
  else some (wrongType ("function takes exactly " ++ natText roles.length ++ " arguments ("
    ++ natText operands.length ++ " given)"))

/-- No value of a report is a sequence of octets. -/
def octetsRefusal? (operands : List Json) : Option Incident :=
  operands[1]?.map fun value =>
    wrongType ("a bytes-like object is required, not '" ++ value.kindName ++ "'")

/-- A group consists of incidents, and no value of a report is one. -/
def groupRefusal : List Json → Incident
  | [.string _, .array []] => noMembers
  | [.string _, .string ""] => noMembers
  | [.string _, .array _] => strangeMember
  | [.string _, .string _] => strangeMember
  | [.string _, _] => wrongType "second argument (exceptions) must be a sequence"
  | [title, _] => wrongType ("BaseExceptionGroup.__new__() argument 1 must be str, not "
      ++ match title with
        | .null => "None"
        | title => title.kindName)
  | operands => wrongType ("BaseExceptionGroup.__new__() takes exactly 2 arguments ("
      ++ natText operands.length ++ " given)")
where
  noMembers : Incident :=
    wrongValue "second argument (exceptions) must be a non-empty sequence"
  strangeMember : Incident :=
    wrongValue "Item 0 of second argument (exceptions) is not an exception"

def refusal? (name : String) (operands : List Json) : Option Incident :=
  if sourceNames.contains name then
    match operands with
    | [_, place] => placeRefusal? place
    | _ => none
  else match name with
    | "UnicodeEncodeError" =>
        rolesRefusal? [.text 1, .text 2, .position, .position, .text 5] operands
    | "UnicodeDecodeError" =>
        (rolesRefusal? [.text 1, .octets, .position, .position, .text 5] operands).or
          (octetsRefusal? operands)
    | "UnicodeTranslateError" =>
        rolesRefusal? [.text 1, .position, .position, .text 4] operands
    | "ExceptionGroup" => some (groupRefusal operands)
    | "BaseExceptionGroup" => some (groupRefusal operands)
    | _ => none

/-- The incident that a name and operands report, or the one that comes of reporting it. -/
def ofReport (reported : String) (operands : List Json) : Except Incident Incident :=
  let name := narrowName (properName reported) operands
  match refusal? name operands with
  | some refusal => .error refusal
  | none =>
      if name = "BlockingIOError" then
        (transferOperands operands).map fun operands => ⟨name, operands, []⟩
      else .ok ⟨name, operands, []⟩

end GraphConsole.Incident
