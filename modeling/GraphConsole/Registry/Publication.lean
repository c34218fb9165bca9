import GraphConsole.Registry.BuildError
import GraphConsole.Registry.Change

/-! Answers of the registry to publishing and deleting schemas. -/

namespace GraphConsole.Registry

structure GraphPublication where
  schemaHash : String
  changes : ChangeSummary := {}
deriving DecidableEq, Repr

namespace GraphPublication

def ofJson : Json → Json.Checked GraphPublication :=
  Json.record fun fields =>
    GraphPublication.mk <$> Json.required "api_schema_hash" Json.text fields
      <*> Json.defaulted "change_summary" {} ChangeSummary.ofJson fields

def toJson (publication : GraphPublication) : Json :=
  .object [("api_schema_hash", .string publication.schemaHash),
    ("change_summary", publication.changes.toJson)]

end GraphPublication

def buildErrors : Json.Fields → Json.Checked (List BuildError) :=
  Json.defaulted "build_errors" [] (Json.listOf BuildError.ofJson)

structure SubgraphPublication where
  schemaHash : Option String := none
  supergraphUpdated : Bool
  subgraphCreated : Bool
  buildErrors : List BuildError := []
  launchUrl : Option String := none
  launchNote : Option String := none
deriving DecidableEq, Repr

namespace SubgraphPublication

def ofJson : Json → Json.Checked SubgraphPublication :=
  Json.record fun fields =>
    SubgraphPublication.mk <$> Json.optional "api_schema_hash" Json.text fields
      <*> Json.required "supergraph_was_updated" Json.flag fields
      <*> Json.required "subgraph_was_created" Json.flag fields
      <*> Registry.buildErrors fields
      <*> Json.optional "launch_url" Json.text fields
      <*> Json.optional "launch_cli_copy" Json.text fields

def toJson (publication : SubgraphPublication) : Json :=
  .object [("api_schema_hash", Json.optionalString publication.schemaHash),
    ("supergraph_was_updated", .bool publication.supergraphUpdated),
    ("subgraph_was_created", .bool publication.subgraphCreated),
    ("build_errors", .object [("errors", BuildError.listJson publication.buildErrors)]),
    ("launch_url", Json.optionalString publication.launchUrl),
    ("launch_cli_copy", Json.optionalString publication.launchNote)]

end SubgraphPublication

structure SubgraphDeletion where
  supergraphUpdated : Bool
  buildErrors : List BuildError := []
deriving DecidableEq, Repr

namespace SubgraphDeletion

def ofJson : Json → Json.Checked SubgraphDeletion :=
  Json.record fun fields =>
    SubgraphDeletion.mk <$> Json.required "supergraph_was_updated" Json.flag fields
      <*> Registry.buildErrors fields

def toJson (deletion : SubgraphDeletion) : Json :=
  .object [("supergraph_was_updated", .bool deletion.supergraphUpdated),
    ("build_errors", .object [("errors", BuildError.listJson deletion.buildErrors)])]

end SubgraphDeletion

end GraphConsole.Registry
