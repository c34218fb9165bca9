import GraphConsole.Console.Settings
import GraphConsole.Failure.Fault
import GraphConsole.Outcome.Envelope
import GraphConsole.Outcome.Report
import GraphConsole.Text.ControlSequence

/-! Showing outcomes on the two output streams. Standard output only ever gets a body or an
envelope; all that surrounds it goes to standard error. -/

namespace GraphConsole

open GraphConsole.Text

structure Emission where
  output : List Char := []
  errors : List Char := []
deriving DecidableEq, Repr

/-- How outcomes are shown: in which format, with or without narration, and whether standard
output is a terminal, which then interprets control sequences itself. -/
structure Dispatcher where
  format : Format
  interactive : Bool
  terminal : Bool := false
deriving DecidableEq, Repr

namespace Dispatcher

def printed (s : List Char) : List Char :=
  join ['\n'] ((splitAt '\n' s).map (expandTabs 0)) ++ ['\n']

def printedLines (lines : List Line) : List Char :=
  (lines.map Line.plain).flatMap printed

/-- An empty body is not written at all. -/
def writtenBody (dispatcher : Dispatcher) (body : List Char) : List Char :=
  (if dispatcher.terminal then body else withoutControls body) ++ ['\n']

def heading (report : Report) : List Char :=
  match report.descriptor with
  | none => []
  | some descriptor =>
      if report.inlineDescriptor then descriptor.toList ++ ":".toList ++ [' ']
      else descriptor.toList ++ ":".toList ++ ['\n', '\n']

def narration (report : Report) : List Char :=
  heading report ++ printedLines report.status

def emissionOfReport (dispatcher : Dispatcher) (report : Report) : Emission where
  errors := (if dispatcher.interactive then narration report else [])
    ++ printedLines report.advisory
  output :=
    match report.body with
    | none => []
    | some body => if body.isEmpty then [] else dispatcher.writtenBody body.toList

def emissionOfFailure (failure : Failure) : Emission where
  errors := printedLines failure.lines

/-- What is written for an outcome; an answer without a rendering is refused before anything is
written. -/
def emission (dispatcher : Dispatcher) (outcome : Outcome) : Except Incident Emission :=
  match dispatcher.format with
  | .json =>
      match outcome.envelope with
      | .ok envelope => .ok { output := dispatcher.writtenBody envelope.toText.toList }
      | .error incident => .error incident
  | .plain =>
      match outcome with
      | .failure known => .ok (emissionOfFailure known)
      | .success (.known output) => .ok (dispatcher.emissionOfReport (.ofOutput output))
      | .success (.foreign name) => .error (Answer.unhandled "terminal rendering" name)

def outcomeOf : Except Fault Answer → Except Fault Outcome
  | .ok answer => .ok (.success answer)
  | .error (.failure known) => .ok (.failure known)
  | .error (.incident unforeseen) => .ok (.failure (Fault.incident unforeseen).toUnclassified)
  | .error (.refusal turned) => .error (.refusal turned)
  | .error (.interrupt request) => .error (.interrupt request)

def emit (dispatcher : Dispatcher) (outcome : Outcome) : Except Fault (Nat × Emission) :=
  match dispatcher.emission outcome with
  | .ok emission => .ok (outcome.exitCode, emission)
  | .error incident => .error (.incident incident)

/-- Exit code and emission for what a command came to; with `emitSuccess` off, a success is left
for a later command to tell. -/
def run (dispatcher : Dispatcher) (result : Except Fault Answer) (emitSuccess : Bool) :
    Except Fault (Nat × Emission) :=
  match outcomeOf result with
  | .error fault => .error fault
  | .ok (.failure known) => dispatcher.emit (.failure known)
  | .ok (.success answer) =>
      if emitSuccess then dispatcher.emit (.success answer) else .ok (0, {})

end Dispatcher

end GraphConsole
