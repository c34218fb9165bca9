import GraphConsole.Text.Blank
import GraphConsole.Text.Capital

/-! The kinds of failure, their codes and their explanations. A code once given to a kind stays
with it. -/

namespace GraphConsole

open GraphConsole.Text

inductive Severity
  | error
  | warning
  | hint
deriving DecidableEq, Repr

def Severity.name : Severity → String
  | .error => "error"
  | .warning => "warning"
  | .hint => "hint"

namespace Failure

inductive Kind
  | invalidGraphRef
  | transport
  | malformedResponse
  | graphNotFound
  | subgraphNotFound
  | profileNotFound
  | authenticationFailed
  | templateNotFound
  | noSupergraphBuilds
  | buildErrors
  | operationCheckFailure
  | unknownErrorCode
  | unclassified
deriving DecidableEq, Repr

namespace Kind

def all : List Kind := [
  .invalidGraphRef, .transport, .malformedResponse, .graphNotFound, .subgraphNotFound,
  .profileNotFound, .authenticationFailed, .templateNotFound, .noSupergraphBuilds, .buildErrors,
  .operationCheckFailure, .unknownErrorCode, .unclassified]

theorem mem_all (kind : Kind) : kind ∈ all := by
  cases kind <;> decide

def name : Kind → String
  | .invalidGraphRef => "invalid_graph_ref"
  | .transport => "transport"
  | .malformedResponse => "malformed_response"
  | .graphNotFound => "graph_not_found"
  | .subgraphNotFound => "subgraph_not_found"
  | .profileNotFound => "profile_not_found"
  | .authenticationFailed => "authentication_failed"
  | .templateNotFound => "template_not_found"
  | .noSupergraphBuilds => "no_supergraph_builds"
  | .buildErrors => "build_errors"
  | .operationCheckFailure => "operation_check_failure"
  | .unknownErrorCode => "unknown_error_code"
  | .unclassified => "unclassified"

def ofName? (name : String) : Option Kind :=
  all.find? fun kind => kind.name == name

/-- Only unclassified failures have no code. -/
def code : Kind → Option String
  | .invalidGraphRef => some "E001"
  | .transport => some "E004"
  | .malformedResponse => some "E005"
  | .graphNotFound => some "E008"
  | .subgraphNotFound => some "E009"
  | .profileNotFound => some "E020"
  | .authenticationFailed => some "E021"
  | .templateNotFound => some "E024"
  | .noSupergraphBuilds => some "E027"
  | .buildErrors => some "E029"
  | .operationCheckFailure => some "E030"
  | .unknownErrorCode => some "E031"
  | .unclassified => none

def severity : Kind → Severity
  | .noSupergraphBuilds => .error
  | .buildErrors => .error
  | .operationCheckFailure => .error
  | .unclassified => .error
  | _ => .hint

def explanation : Kind → String
  | .invalidGraphRef =>
      "This error occurs when a graph reference could not be parsed.\n\n"
      ++ "Graph references are written `<NAME>` or `<NAME>@<VARIANT>`. The name must "
      ++ "start with a letter and may only contain letters, numbers, `-` and `_`. "
      ++ "When no variant is given, `current` is used."
  | .transport =>
      "This error occurs when the registry could not be reached.\n\n"
      ++ "Check your network connection and any proxy settings, then run the command "
      ++ "again. If the problem persists, the registry may be experiencing an outage."
  | .malformedResponse =>
      "This error occurs when the registry responded with data that could not be "
      ++ "understood.\n\nThis is usually caused by an outdated client. Upgrade to the "
      ++ "latest release and try again."
  | .graphNotFound =>
      "This error occurs when the requested graph does not exist or the credentials "
      ++ "in use cannot access it.\n\nVerify the graph reference and make sure the "
      ++ "**profile** you are using belongs to an account with access to the graph."
  | .subgraphNotFound =>
      "This error occurs when the requested subgraph does not exist in the graph.\n\n"
      ++ "Run `rover subgraph list <GRAPH_REF>` to see the subgraphs that exist."
  | .profileNotFound =>
      "This error occurs when a command names a configuration profile that does not "
      ++ "exist.\n\nRun `rover profile list` to see the configured profiles."
  | .authenticationFailed =>
      "This error occurs when no usable API key was found for the selected "
      ++ "profile.\n\nStore an API key for the profile, or set the `ROVER_API_KEY` "
      ++ "environment variable."
  | .templateNotFound =>
      "This error occurs when a template id does not match any known template.\n\n"
      ++ "Run `rover template list` to see the available templates."
  | .noSupergraphBuilds =>
      "This error occurs when a supergraph schema was requested but no subgraph "
      ++ "publish has ever composed successfully.\n\nFix the **build errors** listed "
      ++ "with the failure and publish the affected subgraphs again."
  | .buildErrors =>
      "This error occurs when subgraphs could not be composed into a supergraph.\n\n"
      ++ "Every **build error** is listed with the failure, each with its own message "
      ++ "and code. Resolve them and compose or publish again."
  | .operationCheckFailure =>
      "This error occurs when a proposed schema would break operations that clients "
      ++ "have sent recently.\n\nReview the failing changes at the check's target URL, "
      ++ "or mark them as safe in the registry before publishing."
  | .unknownErrorCode =>
      "This error occurs when `rover explain` is given a code that does not exist.\n\n"
      ++ "Error codes are written `E` followed by three digits, for example `E029`."
  | .unclassified => ""

/-- The spelling of a code that the table uses: no blanks around it, and capitals. -/
def canonical (code : String) : String :=
  String.ofList (capitals (trim code.toList))

def ofCode? (code : String) : Option Kind :=
  all.find? fun kind => kind.code == some (canonical code)

end Kind

end Failure

end GraphConsole
