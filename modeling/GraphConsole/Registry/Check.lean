import GraphConsole.Registry.Change
import GraphConsole.Registry.GraphRef

/-! Checks of a proposed schema against the operations that clients have sent. -/

namespace GraphConsole.Registry

structure CheckReport where
  targetUrl : Option String := none
  operationCount : Int
  changes : List SchemaChange
  result : Verdict
  failureCount : Int
  graph : GraphRef
  coreSchemaModified : Bool
deriving DecidableEq, Repr

namespace CheckReport

def ofChanges (targetUrl : Option String) (operationCount : Int) (changes : List SchemaChange)
    (result : Verdict) (graph : GraphRef) (coreSchemaModified : Bool) : CheckReport where
  targetUrl := targetUrl
  operationCount := operationCount
  changes := changes
  result := result
  failureCount := (SchemaChange.failing changes).length
  graph := graph
  coreSchemaModified := coreSchemaModified

def ofJson : Json → Json.Checked CheckReport :=
  Json.record fun fields =>
    CheckReport.mk <$> Json.optional "target_url" Json.text fields
      <*> Json.required "operation_check_count" Json.int fields
      <*> Json.required "changes" (Json.listOf SchemaChange.ofJson) fields
      <*> Json.required "result" Verdict.ofJson fields
      <*> Json.required "failure_count" Json.int fields
      <*> Json.required "graph_ref" GraphRef.ofJson fields
      <*> Json.required "core_schema_modified" Json.flag fields

def toJson (report : CheckReport) : Json :=
  .object [("target_url", Json.optionalString report.targetUrl),
    ("operation_check_count", .integer report.operationCount),
    ("changes", .array (report.changes.map SchemaChange.toJson)),
    ("result", .string report.result.name),
    ("failure_count", .integer report.failureCount),
    ("graph_ref", report.graph.toJson),
    ("core_schema_modified", .bool report.coreSchemaModified)]

def summaryFields (report : CheckReport) : Json.Fields :=
  [("target_url", Json.optionalString report.targetUrl),
    ("operation_check_count", .integer report.operationCount),
    ("changes", .array (report.changes.map SchemaChange.toJson)),
    ("failure_count", .integer report.failureCount),
    ("success", .bool (report.result = .pass)),
    ("core_schema_modified", .bool report.coreSchemaModified)]

end CheckReport

structure QueuedCheck where
  workflowId : String
  targetUrl : String
deriving DecidableEq, Repr

namespace QueuedCheck

def ofJson : Json → Json.Checked QueuedCheck :=
  Json.record fun fields =>
    QueuedCheck.mk <$> Json.required "workflow_id" Json.text fields
      <*> Json.required "target_url" Json.text fields

def summaryFields (check : QueuedCheck) : Json.Fields :=
  [("workflow_id", .string check.workflowId), ("target_url", .string check.targetUrl)]

def toJson (check : QueuedCheck) : Json :=
  .object check.summaryFields

end QueuedCheck

end GraphConsole.Registry
