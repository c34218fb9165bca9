import GraphConsole.Failure.Wording
import GraphConsole.Json.Printer

/-! Incidents: what can go wrong outside the program without being one of its own failures. An
incident has the name of its class and the operands that describe it. A class that is not known
here may belong to wider ones that are. -/

namespace GraphConsole

open GraphConsole.Text

structure Incident where
  name : String
  operands : List Json
  wider : List String := []

namespace Incident

/-- Whether the incident is of one of some classes, by its own name or by that of a wider class. -/
def isOneOf (incident : Incident) (names : List String) : Bool :=
  names.contains incident.name || incident.wider.any names.contains

def connectionNames : List String := [
  "ConnectionError", "BrokenPipeError", "ConnectionAbortedError", "ConnectionRefusedError",
  "ConnectionResetError"]

def systemNames : List String := connectionNames ++ [
  "OSError", "TimeoutError", "FileNotFoundError", "FileExistsError", "PermissionError",
  "NotADirectoryError", "IsADirectoryError", "InterruptedError", "BlockingIOError",
  "ChildProcessError", "ProcessLookupError"]

def sourceNames : List String := ["SyntaxError", "IndentationError", "TabError"]

def isConnectionLoss (incident : Incident) : Bool :=
  incident.isOneOf connectionNames

def isTimeout (incident : Incident) : Bool :=
  incident.isOneOf ["TimeoutError"]

def isTransport (incident : Incident) : Bool :=
  incident.isConnectionLoss || incident.isTimeout

def systemName : Int → String
  | 1 => "PermissionError"
  | 2 => "FileNotFoundError"
  | 3 => "ProcessLookupError"
  | 4 => "InterruptedError"
  | 10 => "ChildProcessError"
  | 11 => "BlockingIOError"
  | 13 => "PermissionError"
  | 17 => "FileExistsError"
  | 20 => "NotADirectoryError"
  | 21 => "IsADirectoryError"
  | 32 => "BrokenPipeError"
  | 103 => "ConnectionAbortedError"
  | 104 => "ConnectionResetError"
  | 108 => "BrokenPipeError"
  | 110 => "TimeoutError"
  | 111 => "ConnectionRefusedError"
  | 114 => "BlockingIOError"
  | 115 => "BlockingIOError"
  | _ => "OSError"

def ofSystem (number : Int) (text : String) (path : String) : Incident :=
  ⟨systemName number, [.integer number, .string text, .string path], []⟩

def ofOverrun : Json.Overrun → Incident
  | .depth =>
      ⟨"RecursionError", [.string "maximum recursion depth exceeded while calling a Python object"],
        []⟩
  | .digits =>
      ⟨"ValueError", [.string ("Exceeds the limit (4300 digits) for integer string conversion; "
        ++ "use sys.set_int_max_str_digits() to increase the limit")], []⟩

/-- Empty without operands; a missing key shows in quotation marks. -/
def text (incident : Incident) : String :=
  let operands := incident.operands
  String.ofList <|
    if incident.isOneOf systemNames then
      (Wording.ofSystem? operands).getD (Wording.listed operands)
    else if incident.isOneOf sourceNames then Wording.ofSource operands
    else if incident.isOneOf ["KeyError"] then Wording.ofKey operands
    else if incident.isOneOf ["UnicodeEncodeError"] then
      (Wording.ofEncoding? operands).getD (Wording.listed operands)
    else if incident.isOneOf ["UnicodeTranslateError"] then
      (Wording.ofMapping? operands).getD (Wording.listed operands)
    else Wording.listed operands

end Incident

end GraphConsole
