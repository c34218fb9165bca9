import GraphConsole.Registry.GraphRef
import GraphConsole.Registry.Timestamp

/-! Listings of the subgraphs of a graph. -/

namespace GraphConsole.Registry

structure UpdatedAt where
  localTime : Option Timestamp := none
  universalTime : Option Timestamp := none
deriving DecidableEq, Repr

namespace UpdatedAt

def ofJson : Json → Json.Checked UpdatedAt :=
  Json.record fun fields =>
    UpdatedAt.mk <$> Json.optional "local" Timestamp.ofJson fields
      <*> Json.optional "utc" Timestamp.ofJson fields

def toJson (updated : UpdatedAt) : Json :=
  .object [("local", Json.ofOption Timestamp.toJson updated.localTime),
    ("utc", Json.ofOption Timestamp.toJson updated.universalTime)]

end UpdatedAt

structure Subgraph where
  name : String
  url : Option String := none
  updatedAt : UpdatedAt := {}
deriving DecidableEq, Repr

namespace Subgraph

def ofJson : Json → Json.Checked Subgraph :=
  Json.record fun fields =>
    Subgraph.mk <$> Json.required "name" Json.text fields
      <*> Json.optional "url" Json.text fields
      <*> Json.defaulted "updated_at" {} UpdatedAt.ofJson fields

def toJson (subgraph : Subgraph) : Json :=
  .object [("name", .string subgraph.name), ("url", Json.optionalString subgraph.url),
    ("updated_at", subgraph.updatedAt.toJson)]

end Subgraph

structure SubgraphListing where
  subgraphs : List Subgraph
  rootUrl : String
  graph : GraphRef
deriving DecidableEq, Repr

namespace SubgraphListing

def ofJson : Json → Json.Checked SubgraphListing :=
  Json.record fun fields =>
    SubgraphListing.mk <$> Json.required "subgraphs" (Json.listOf Subgraph.ofJson) fields
      <*> Json.required "root_url" Json.text fields
      <*> Json.required "graph_ref" GraphRef.ofJson fields

def toJson (listing : SubgraphListing) : Json :=
  .object [("subgraphs", .array (listing.subgraphs.map Subgraph.toJson)),
    ("root_url", .string listing.rootUrl), ("graph_ref", listing.graph.toJson)]

end SubgraphListing

end GraphConsole.Registry
