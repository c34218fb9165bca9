import GraphConsole.Failure.Fault
import GraphConsole.Registry.Composition
import GraphConsole.Registry.Contract
import GraphConsole.Registry.Publication
import GraphConsole.Registry.Schema
import GraphConsole.Registry.Subgraph

/-! The services that commands call: the registry, a composition engine, an introspector and a
fetcher of templates. Each is described by how it reacts to requests. -/

namespace GraphConsole.Service

open GraphConsole.Registry

abbrev Reaction (α : Type) := Except Fault α

/-- Reactions to the first, the second and further requests; the last one repeats. -/
abbrev Script (α : Type) := List (Reaction α)

/-- The first reaction of a script; one without reactions does not know the request. -/
def Script.reaction : Script α → Reaction α
  | reaction :: _ => reaction
  | [] => .error (.incident ⟨"NotImplementedError", [], []⟩)

def Script.advance : Script α → Script α
  | [] => []
  | [last] => [last]
  | _ :: rest => rest

inductive Method
  | listSubgraphs
  | fetchSubgraph
  | publishSubgraph
  | deleteSubgraph
  | fetchGraph
  | publishGraph
  | checkGraph
  | fetchSupergraph
  | fetchReadme
  | publishReadme
  | describeContract
  | publishContract
deriving DecidableEq, Repr

inductive CheckAnswer
  | finished (report : CheckReport)
  | queued (check : QueuedCheck)

structure Readme where
  content : String
  lastUpdated : Option String
deriving DecidableEq, Repr

abbrev Method.Answer : Method → Type
  | .listSubgraphs => SubgraphListing
  | .fetchSubgraph => Schema
  | .publishSubgraph => SubgraphPublication
  | .deleteSubgraph => SubgraphDeletion
  | .fetchGraph => Schema
  | .publishGraph => GraphPublication
  | .checkGraph => CheckAnswer
  | .fetchSupergraph => Schema
  | .fetchReadme => Readme
  | .publishReadme => Readme
  | .describeContract => ContractDescription
  | .publishContract => ContractPublication

inductive Request
  | listSubgraphs (graph : GraphRef)
  | fetchSubgraph (graph : GraphRef) (subgraph : String)
  | publishSubgraph (graph : GraphRef) (subgraph schema : String) (routingUrl : Option String)
  | deleteSubgraph (graph : GraphRef) (subgraph : String) (dryRun : Bool)
  | fetchGraph (graph : GraphRef)
  | publishGraph (graph : GraphRef) (schema : String)
  | checkGraph (graph : GraphRef) (schema : String) (background : Bool)
  | fetchSupergraph (graph : GraphRef)
  | fetchReadme (graph : GraphRef)
  | publishReadme (graph : GraphRef) (content : String)
  | describeContract (graph : GraphRef)
  | publishContract (graph : GraphRef) (sourceVariant : String)
      (includeTags excludeTags : List String)
deriving DecidableEq, Repr

namespace Request

abbrev method : Request → Method
  | .listSubgraphs .. => .listSubgraphs
  | .fetchSubgraph .. => .fetchSubgraph
  | .publishSubgraph .. => .publishSubgraph
  | .deleteSubgraph .. => .deleteSubgraph
  | .fetchGraph .. => .fetchGraph
  | .publishGraph .. => .publishGraph
  | .checkGraph .. => .checkGraph
  | .fetchSupergraph .. => .fetchSupergraph
  | .fetchReadme .. => .fetchReadme
  | .publishReadme .. => .publishReadme
  | .describeContract .. => .describeContract
  | .publishContract .. => .publishContract

def graph : Request → GraphRef
  | .listSubgraphs graph => graph
  | .fetchSubgraph graph _ => graph
  | .publishSubgraph graph _ _ _ => graph
  | .deleteSubgraph graph _ _ => graph
  | .fetchGraph graph => graph
  | .publishGraph graph _ => graph
  | .checkGraph graph _ _ => graph
  | .fetchSupergraph graph => graph
  | .fetchReadme graph => graph
  | .publishReadme graph _ => graph
  | .describeContract graph => graph
  | .publishContract graph _ _ _ => graph

end Request

structure Client where
  script : (method : Method) → Script method.Answer

namespace Client

def silent : Client := ⟨fun _ => []⟩

def advance (client : Client) (method : Method) : Client where
  script other :=
    if same : other = method then same ▸ (client.script method).advance else client.script other

def withScript (client : Client) (method : Method) (script : Script method.Answer) : Client where
  script other := if same : other = method then same ▸ script else client.script other

theorem script_advance_of_ne (client : Client) {method other : Method} (h : other ≠ method) :
    (client.advance method).script other = client.script other := by
  simp [advance, h]

end Client

end GraphConsole.Service
