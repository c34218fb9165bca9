import GraphConsole.Outcome.Output
import GraphConsole.Service.World

/-! Commands on the schemas of graphs, subgraphs and supergraphs in the registry. -/

namespace GraphConsole.Command

open GraphConsole.Registry
open GraphConsole.Service

def fetchGraph (graph : GraphRef) : Action Output := do
  let schema ← Action.during "fetching graph schema" (some graph) <|
    askRegistry (.fetchGraph graph)
  return .fetch schema

def publishGraph (graph : GraphRef) (schema : String) : Action Output := do
  let response ← Action.during "publishing graph schema" (some graph) <|
    askRegistry (.publishGraph graph schema)
  return .graphPublish graph response

/-- A check that found breaking changes is a failure, whatever it counted. -/
def checkOutput (graph : GraphRef) : CheckAnswer → Except Fault Output
  | .queued check => .ok (.asyncCheck check)
  | .finished report =>
      match report.result with
      | .fail => .error (.failure (.operationCheck graph report))
      | .pass => .ok (.check report)

def checkGraph (graph : GraphRef) (schema : String) (background : Bool) : Action Output := do
  let answer ← Action.during "checking graph schema" (some graph) <|
    askRegistry (.checkGraph graph schema background)
  Action.ofExcept (checkOutput graph answer)

def listSubgraphs (graph : GraphRef) : Action Output := do
  let listing ← Action.during "listing subgraphs" (some graph) <|
    askRegistry (.listSubgraphs graph)
  return .subgraphList listing

def missingFrom (listing : SubgraphListing) (subgraph : String) : Failure :=
  .subgraphNotFound subgraph (listing.subgraphs.map Subgraph.name)

/-- Where the registry does not say which subgraphs there are, it is asked for them. -/
def fetchSubgraph (graph : GraphRef) (subgraph : String) : Action Output := do
  let fetched := Action.during "fetching subgraph schema" (some graph) <|
    askRegistry (.fetchSubgraph graph subgraph)
  let schema ← tryCatch fetched fun fault => do
    match fault with
    | .failure (.subgraphNotFound _ []) =>
        let listing ← Action.during "listing subgraphs" (some graph) <|
          askRegistry (.listSubgraphs graph)
        Action.fail (missingFrom listing subgraph)
    | _ => throw fault
  return .fetch schema

def publishSubgraph (graph : GraphRef) (subgraph schema : String)
    (routingUrl : Option String) : Action Output := do
  let response ← Action.during "publishing subgraph" (some graph) <|
    askRegistry (.publishSubgraph graph subgraph schema routingUrl)
  return .subgraphPublish graph subgraph response

def deleteSubgraph (graph : GraphRef) (subgraph : String) (dryRun : Bool) : Action Output := do
  let operation := if dryRun then "checking subgraph deletion" else "deleting subgraph"
  let response ← Action.during operation (some graph) <|
    askRegistry (.deleteSubgraph graph subgraph dryRun)
  return .subgraphDelete graph subgraph dryRun response

def fetchSupergraph (graph : GraphRef) : Action Output := do
  let schema ← Action.during "fetching supergraph schema" (some graph) <|
    askRegistry (.fetchSupergraph graph)
  return .fetch schema

def introspect (endpoint : String) (headers : List (String × String)) : Action Output := do
  let response ← Action.during ("introspecting " ++ endpoint) none <|
    askIntrospector endpoint headers
  return .introspection response

end GraphConsole.Command
