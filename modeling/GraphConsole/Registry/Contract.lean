import GraphConsole.Registry.GraphRef

/-! Contracts: variants that show a filtered part of another variant. -/

namespace GraphConsole.Registry

structure ContractDescription where
  description : String
  rootUrl : String
  graph : GraphRef
deriving DecidableEq, Repr

namespace ContractDescription

def ofJson : Json → Json.Checked ContractDescription :=
  Json.record fun fields =>
    ContractDescription.mk <$> Json.required "description" Json.text fields
      <*> Json.required "root_url" Json.text fields
      <*> Json.required "graph_ref" GraphRef.ofJson fields

def toJson (contract : ContractDescription) : Json :=
  .object [("description", .string contract.description), ("root_url", .string contract.rootUrl),
    ("graph_ref", contract.graph.toJson)]

end ContractDescription

structure ContractPublication where
  description : String
  launchUrl : Option String := none
  launchNote : Option String := none
deriving DecidableEq, Repr

namespace ContractPublication

def ofJson : Json → Json.Checked ContractPublication :=
  Json.record fun fields =>
    ContractPublication.mk <$> Json.required "config_description" Json.text fields
      <*> Json.optional "launch_url" Json.text fields
      <*> Json.optional "launch_cli_copy" Json.text fields

def fields (publication : ContractPublication) : Json.Fields :=
  [("config_description", .string publication.description),
    ("launch_url", Json.optionalString publication.launchUrl),
    ("launch_cli_copy", Json.optionalString publication.launchNote)]

def toJson (publication : ContractPublication) : Json :=
  .object publication.fields

end ContractPublication

end GraphConsole.Registry
