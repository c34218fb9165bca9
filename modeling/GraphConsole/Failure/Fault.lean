import GraphConsole.Failure.Acceptance
import GraphConsole.Failure.Basic

/-! Everything that can end a command early. -/

namespace GraphConsole

/-- How the command line answers: with the usage of the command, as to an invalid value, with the
message alone, or by saying that it gives up. -/
inductive Refusal.Manner
  | usage
  | value
  | plain
  | abort
deriving DecidableEq, Repr

structure Refusal where
  manner : Refusal.Manner
  name : String
  message : String
deriving DecidableEq, Repr

def Refusal.noAnswer : Refusal :=
  ⟨.abort, "Abort", ""⟩

namespace Refusal

def manner? : String → Option Manner
  | "UsageError" => some .usage
  | "BadParameter" => some .value
  | "ClickException" => some .plain
  | "Abort" => some .abort
  | _ => none

/-- A refusal needs a message, and one without a usage takes nothing else; giving up needs none. -/
def ofReport (manner : Manner) (name : String) (operands : List Json) :
    Except Incident Refusal :=
  let start := name ++ ".__init__() "
  match manner, operands with
  | .abort, operands => .ok ⟨.abort, name, String.ofList (Wording.listed operands)⟩
  | _, [] => .error (.wrongType (start ++ "missing 1 required positional argument: 'message'"))
  | .plain, _ :: _ :: rest => .error (.wrongType (start
      ++ "takes 2 positional arguments but " ++ Text.natText (rest.length + 3) ++ " were given"))
  | manner, message :: _ => .ok ⟨manner, name, String.ofList message.displayed⟩

end Refusal

inductive Fault
  | failure (failure : Failure)
  /-- The command line deals with it. -/
  | refusal (refusal : Refusal)
  /-- Unforeseen; reported as an unclassified failure. -/
  | incident (incident : Incident)
  /-- Someone wants the program to stop. -/
  | interrupt (incident : Incident)

namespace Fault

def text : Fault → String
  | .failure known => known.message
  | .refusal turned => turned.message
  | .incident unforeseen => unforeseen.text
  | .interrupt request => request.text

def name : Fault → String
  | .failure known => known.name
  | .refusal turned => turned.name
  | .incident unforeseen => unforeseen.name
  | .interrupt request => request.name

def reason (fault : Fault) : String :=
  let text := fault.text
  if text.isEmpty then fault.name else text

/-- Incidents that nothing in the program may hold up. -/
def interruptNames : List String :=
  ["KeyboardInterrupt", "SystemExit", "GeneratorExit", "BaseException"]

/-- The fault that a name and operands report, or the incident that comes of reporting it. -/
def ofReport (name : String) (operands : List Json) : Except Incident Fault :=
  match Refusal.manner? name with
  | some manner => (Refusal.ofReport manner name operands).map .refusal
  | none =>
      if interruptNames.contains name then .ok (.interrupt ⟨name, operands, []⟩)
      else (Incident.ofReport name operands).map .incident

def toUnclassified (fault : Fault) : Failure :=
  .unclassified fault.reason

end Fault

end GraphConsole
