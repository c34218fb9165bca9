import GraphConsole.Json.Decode

/-! Schema documents. -/

namespace GraphConsole.Registry

inductive SchemaKind
  | graph
  | subgraph
  | supergraph
deriving DecidableEq, Repr

namespace SchemaKind

def name : SchemaKind → String
  | .graph => "graph"
  | .subgraph => "subgraph"
  | .supergraph => "supergraph"

def all : List SchemaKind := [.graph, .subgraph, .supergraph]

end SchemaKind

/-- A document in the schema definition language; only subgraphs have a routing URL. -/
structure Schema where
  contents : String
  kind : SchemaKind
  routingUrl : Option String := none
deriving DecidableEq, Repr

namespace Schema

def ofJson : Json → Json.Checked Schema :=
  Json.record fun fields =>
    Schema.mk <$> Json.required "contents" Json.text fields
      <*> Json.required "type"
        (Json.oneOf (SchemaKind.all.map fun kind => (kind.name, kind))) fields
      <*> Json.optional "routing_url" Json.text fields

def toJson (schema : Schema) : Json :=
  .object [("contents", .string schema.contents), ("type", .string schema.kind.name),
    ("routing_url", Json.optionalString schema.routingUrl)]

def ofResponse : Json → Json.Checked Schema :=
  Json.record (Json.required "sdl" ofJson)

def toResponse (schema : Schema) : Json :=
  .object [("sdl", schema.toJson)]

end Schema

end GraphConsole.Registry
