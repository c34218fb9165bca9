import GraphConsole.Failure.Kind
import GraphConsole.Registry.BuildError
import GraphConsole.Registry.Check
import GraphConsole.Registry.GraphRef

/-! Failures that the program knows and can name, with what it says about each. -/

namespace GraphConsole

open GraphConsole.Text
open GraphConsole.Registry

inductive Failure
  | unknown
  | invalidGraphRef (value : String)
  | transport (operation reason : String) (graph : Option GraphRef)
  | malformedResponse (reason : String)
  | graphNotFound (graph : GraphRef)
  | subgraphNotFound (subgraph : String) (existing : List String)
  | profileNotFound (profile : String)
  | authenticationFailed (profile reason : String)
  | templateNotFound (id : String)
  | noSupergraphBuilds (graph : GraphRef) (errors : List BuildError)
  | buildErrors (errors : List BuildError) (subgraph : Option String) (graph : Option GraphRef)
  | operationCheck (graph : GraphRef) (report : CheckReport)
  | unknownErrorCode (code : String)
  | unclassified (text : String)
deriving DecidableEq, Repr

namespace Failure

def kind : Failure → Kind
  | .unknown => .unclassified
  | .invalidGraphRef .. => .invalidGraphRef
  | .transport .. => .transport
  | .malformedResponse .. => .malformedResponse
  | .graphNotFound .. => .graphNotFound
  | .subgraphNotFound .. => .subgraphNotFound
  | .profileNotFound .. => .profileNotFound
  | .authenticationFailed .. => .authenticationFailed
  | .templateNotFound .. => .templateNotFound
  | .noSupergraphBuilds .. => .noSupergraphBuilds
  | .buildErrors .. => .buildErrors
  | .operationCheck .. => .operationCheckFailure
  | .unknownErrorCode .. => .unknownErrorCode
  | .unclassified .. => .unclassified

def name : Failure → String
  | .unknown => "RoverError"
  | .invalidGraphRef .. => "InvalidGraphRef"
  | .transport .. => "TransportError"
  | .malformedResponse .. => "MalformedResponse"
  | .graphNotFound .. => "GraphNotFound"
  | .subgraphNotFound .. => "SubgraphNotFound"
  | .profileNotFound .. => "ProfileNotFound"
  | .authenticationFailed .. => "AuthenticationFailed"
  | .templateNotFound .. => "TemplateNotFound"
  | .noSupergraphBuilds .. => "NoSupergraphBuilds"
  | .buildErrors .. => "BuildErrorsFailure"
  | .operationCheck .. => "OperationCheckFailure"
  | .unknownErrorCode .. => "UnknownErrorCode"
  | .unclassified .. => "UnclassifiedError"

def code (failure : Failure) : Option String :=
  failure.kind.code

def severity (failure : Failure) : Severity :=
  failure.kind.severity

/-- No key was found; other reasons for a failed authentication are given where they arise. -/
def noKeyFound (profile : String) : Failure :=
  .authenticationFailed profile "no API key was found"

def message : Failure → String
  | .unknown => "Rover failed for an unknown reason."
  | .invalidGraphRef value =>
      "\"" ++ value ++ "\" is not a valid graph reference. Graph references must be in the "
      ++ "format <NAME> or <NAME>@<VARIANT>, where <NAME> starts with a letter and "
      ++ "contains only letters, numbers, `-` or `_`."
  | .transport operation reason (some graph) =>
      "Could not reach the registry while " ++ operation ++ " for \"" ++ graph.toText ++ "\": "
        ++ reason
  | .transport operation reason none =>
      "Could not reach the registry while " ++ operation ++ ": " ++ reason
  | .malformedResponse reason => "The registry returned an invalid response: " ++ reason
  | .graphNotFound graph => "Could not find graph \"" ++ graph.toText ++ "\"."
  | .subgraphNotFound subgraph _ => "Could not find subgraph \"" ++ subgraph ++ "\"."
  | .profileNotFound profile => "Could not find a profile named \"" ++ profile ++ "\"."
  | .authenticationFailed profile reason =>
      "Could not authenticate with the \"" ++ profile ++ "\" profile: " ++ reason ++ "."
  | .templateNotFound id => "No template exists with the id \"" ++ id ++ "\"."
  | .noSupergraphBuilds graph _ =>
      "No supergraph SDL exists for \"" ++ graph.toText ++ "\" because its subgraphs "
      ++ "failed to build."
  | .buildErrors errors (some subgraph) (some graph) =>
      "Encountered " ++ BuildError.counted errors.length ++ " while trying to build subgraph \""
        ++ subgraph ++ "\" into supergraph \"" ++ graph.toText ++ "\"."
  | .buildErrors errors _ _ =>
      "Encountered " ++ BuildError.counted errors.length
        ++ " while trying to build a supergraph."
  | .operationCheck _ report =>
      "This operation check has encountered " ++ intText report.failureCount
        ++ (if report.failureCount = 1 then " schema change" else " schema changes")
        ++ " that would break operations from existing client traffic."
  | .unknownErrorCode code => "There is no error with the code \"" ++ code ++ "\"."
  | .unclassified text => text

/-- What scripts get beyond message and code: the build errors behind the failure. -/
def details : Failure → Option Json
  | .noSupergraphBuilds _ errors => some (.object [("build_errors", BuildError.listJson errors)])
  | .buildErrors errors _ _ => some (.object [("build_errors", BuildError.listJson errors)])
  | _ => none

def data : Failure → Json.Fields
  | .operationCheck _ report => Entries.put "success" (.bool false) report.summaryFields
  | _ => []

def items : Failure → List String
  | .subgraphNotFound _ [] => []
  | .subgraphNotFound _ existing => ["Valid subgraphs are: " ++ joined ", " existing]
  | .noSupergraphBuilds _ errors => errors.map BuildError.toText
  | .buildErrors errors _ _ => errors.map BuildError.toText
  | .operationCheck _ report =>
      (SchemaChange.failing report.changes).map fun change =>
        change.code ++ ": " ++ change.description
  | _ => []

end Failure

namespace Registry

def GraphRef.parse (value : String) : Except Failure GraphRef :=
  match GraphRef.parse? value with
  | some graph => .ok graph
  | none => .error (.invalidGraphRef value)

def CheckReport.judge (report : CheckReport) : Except Failure CheckReport :=
  match report.result with
  | .pass => .ok report
  | .fail => .error (.operationCheck report.graph report)

end Registry

end GraphConsole
