import GraphConsole.Outcome.Output
import GraphConsole.Service.World

/-! Commands on what belongs to a variant besides its schema: its readme and its contract. -/

namespace GraphConsole.Command

open GraphConsole.Registry
open GraphConsole.Service

def fetchReadme (graph : GraphRef) : Action Output := do
  let readme ← Action.during "fetching readme" (some graph) <|
    askRegistry (.fetchReadme graph)
  return .readmeFetch graph readme.content readme.lastUpdated

def publishReadme (graph : GraphRef) (content : String) : Action Output := do
  let readme ← Action.during "publishing readme" (some graph) <|
    askRegistry (.publishReadme graph content)
  return .readmePublish graph readme.content readme.lastUpdated

def describeContract (graph : GraphRef) : Action Output := do
  let contract ← Action.during "describing contract" (some graph) <|
    askRegistry (.describeContract graph)
  return .contractDescribe contract

def publishContract (graph : GraphRef) (sourceVariant : String)
    (includeTags excludeTags : List String) : Action Output := do
  let publication ← Action.during "publishing contract" (some graph) <|
    askRegistry (.publishContract graph sourceVariant includeTags excludeTags)
  return .contractPublish publication

end GraphConsole.Command
