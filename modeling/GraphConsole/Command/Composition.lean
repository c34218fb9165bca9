import GraphConsole.Outcome.Output
import GraphConsole.Service.World

/-! Composing a supergraph from schema files. -/

namespace GraphConsole.Command

open GraphConsole.Files
open GraphConsole.Registry
open GraphConsole.Service

def noSources : Failure :=
  .unclassified "At least one subgraph is required to compose a supergraph"

/-- A file that the system cannot give is a failure that names it; one that is no text is not
foreseen. -/
def unreadableSchema (name : String) (path : Path) (trouble : Trouble) : Fault :=
  match trouble with
  | .system .. =>
      .failure (.unclassified ("Could not read the schema for subgraph \"" ++ name ++ "\" from "
        ++ path.toText ++ ": " ++ trouble.toIncident.text))
  | _ => .incident trouble.toIncident

/-- The schemas in the files, in the order of the sources; the first trouble ends the reading. -/
def readSources (tree : Tree) : List (String × Path) → Except Fault (List (String × String))
  | [] => .ok []
  | (name, path) :: rest =>
      match tree.text path with
      | .error trouble => .error (unreadableSchema name path trouble)
      | .ok schema =>
          match readSources tree rest with
          | .ok schemas => .ok ((name, schema) :: schemas)
          | .error fault => .error fault

def schemasOf (sources : List (String × Path)) (tree : Tree) :
    Except Fault (List (String × String)) :=
  match sources with
  | [] => .error (.failure noSources)
  | _ => readSources tree sources

def readSubgraphSchemas (sources : List (String × Path)) :
    Action (List (String × String)) :=
  Action.askFiles (schemasOf sources)

def compositionOutput (includeHints : Bool) (composition : Composition) : Output :=
  if includeHints then .compositionResult composition
  else .supergraphSchema composition.supergraph

def composeSupergraph (subgraphs : List (String × String)) (includeHints : Bool) :
    Action Output := do
  let composition ← askComposer subgraphs
  return compositionOutput includeHints composition

end GraphConsole.Command
