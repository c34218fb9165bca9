import GraphConsole.Failure.Incident
import GraphConsole.Json.Printer
import GraphConsole.Outcome.Output

/-! The JSON envelope that scripts read: version, data and error. -/

namespace GraphConsole

open GraphConsole.Registry

structure ErrorEntry where
  message : String
  code : Option String
  details : Option Json := none

namespace ErrorEntry

def toJson (entry : ErrorEntry) : Json :=
  .object ([("message", .string entry.message), ("code", Json.optionalString entry.code)]
    ++ (match entry.details with
      | some details => [("details", details)]
      | none => []))

def ofFailure (failure : Failure) : ErrorEntry :=
  ⟨failure.message, failure.code, failure.details⟩

end ErrorEntry

structure Envelope where
  fields : Json.Fields
  success : Bool
  error : Option ErrorEntry := none

namespace Envelope

/-- The data fields with the envelope's own success flag, which no field can override. -/
def data (envelope : Envelope) : Json.Fields :=
  Entries.put "success" (.bool envelope.success) envelope.fields

def toJson (envelope : Envelope) : Json :=
  .object [("json_version", .string "1"), ("data", .object envelope.data),
    ("error", Json.ofOption ErrorEntry.toJson envelope.error)]

def toText (envelope : Envelope) : String :=
  envelope.toJson.toIndented

/-- The text of an envelope where the printer has room for so many levels. -/
def print (room : Nat) (envelope : Envelope) : Except Incident String :=
  (envelope.toJson.print room).mapError Incident.ofOverrun

end Envelope

namespace Output

def fields : Output → Json.Fields
  | .contractDescribe response =>
      [("description", .string response.description), ("root_url", .string response.rootUrl),
        ("graph_ref", .string response.graph.toText)]
  | .contractPublish response => response.fields
  | .docsList shortlinks =>
      [("shortlinks", .array ((sortedShortlinks shortlinks).map fun (slug, description) =>
        .object [("slug", .string slug), ("description", .string description)]))]
  | .fetch schema => [("sdl", .object [("contents", .string schema.contents)])]
  | .supergraphSchema coreSchema => [("core_schema", .string coreSchema)]
  | .compositionResult composition =>
      [("core_schema", .string composition.supergraph),
        ("hints", .array (composition.hints.map CompositionHint.toJson))]
        ++ (match composition.federationVersion with
          | some version => [("federation_version", .string version)]
          | none => [])
  | .subgraphList listing => [("subgraphs", .array (listing.subgraphs.map Subgraph.toJson))]
  | .check report => report.summaryFields
  | .asyncCheck queued => queued.summaryFields
  | .graphPublish _ response =>
      [("api_schema_hash", .string response.schemaHash),
        ("field_changes", response.changes.fields.toJson),
        ("type_changes", response.changes.types.toJson)]
  | .subgraphPublish _ _ response =>
      [("api_schema_hash", Json.optionalString response.schemaHash),
        ("supergraph_was_updated", .bool response.supergraphUpdated),
        ("subgraph_was_created", .bool response.subgraphCreated),
        ("launch_url", Json.optionalString response.launchUrl),
        ("launch_cli_copy", Json.optionalString response.launchNote)]
  | .subgraphDelete _ _ _ response =>
      [("supergraph_was_updated", .bool response.supergraphUpdated)]
  | .templateList templates => [("templates", .array (templates.map Template.toJson))]
  | .templateUse template path =>
      [("template_id", .string template.id), ("path", .string path.toText)]
  | .profiles names => [("profiles", Json.strings names)]
  | .introspection response => [("introspection_response", .string response)]
  | .errorExplanation markdown => [("explanation_markdown", .string markdown)]
  | .readmeFetch _ content lastUpdated =>
      [("readme", .string content), ("last_updated_time", Json.optionalString lastUpdated)]
  | .readmePublish _ content lastUpdated =>
      [("readme", .string content), ("last_updated_time", Json.optionalString lastUpdated)]
  | .emptySuccess => []

def envelope (output : Output) : Envelope where
  fields := output.fields
  success := true
  error := output.companion.map ErrorEntry.ofFailure

end Output

def Failure.envelope (failure : Failure) : Envelope where
  fields := failure.data
  success := false
  error := some (.ofFailure failure)

def Answer.unhandled (what name : String) : Incident :=
  ⟨"UnhandledOutputError", [.string ("No " ++ what ++ " for " ++ name)], []⟩

def Outcome.envelope : Outcome → Except Incident Envelope
  | .success (.known output) => .ok output.envelope
  | .success (.foreign name) => .error (Answer.unhandled "JSON mapping" name)
  | .failure known => .ok known.envelope

end GraphConsole
