import GraphConsole.Failure.Basic
import GraphConsole.Files.Path
import GraphConsole.Registry.Composition
import GraphConsole.Registry.Contract
import GraphConsole.Registry.Publication
import GraphConsole.Registry.Schema
import GraphConsole.Registry.Subgraph
import GraphConsole.Registry.Template

/-! What commands can succeed with. -/

namespace GraphConsole

open GraphConsole.Registry

inductive Output
  | contractDescribe (response : ContractDescription)
  | contractPublish (response : ContractPublication)
  | docsList (shortlinks : List (String × String))
  | fetch (schema : Schema)
  | supergraphSchema (coreSchema : String)
  | compositionResult (composition : Composition)
  | subgraphList (listing : SubgraphListing)
  | check (report : CheckReport)
  | asyncCheck (check : QueuedCheck)
  | graphPublish (graph : GraphRef) (response : GraphPublication)
  | subgraphPublish (graph : GraphRef) (subgraph : String) (response : SubgraphPublication)
  | subgraphDelete (graph : GraphRef) (subgraph : String) (dryRun : Bool)
      (response : SubgraphDeletion)
  | templateList (templates : List Template)
  | templateUse (template : Template) (path : Files.Path)
  | profiles (names : List String)
  | introspection (response : String)
  | errorExplanation (markdown : String)
  | readmeFetch (graph : GraphRef) (content : String) (lastUpdated : Option String)
  | readmePublish (graph : GraphRef) (content : String) (lastUpdated : Option String)
  | emptySuccess
deriving DecidableEq, Repr

namespace Output

inductive Variant
  | contractDescribe
  | contractPublish
  | docsList
  | fetch
  | supergraphSchema
  | compositionResult
  | subgraphList
  | check
  | asyncCheck
  | graphPublish
  | subgraphPublish
  | subgraphDelete
  | templateList
  | templateUse
  | profiles
  | introspection
  | errorExplanation
  | readmeFetch
  | readmePublish
  | emptySuccess
deriving DecidableEq, Repr

namespace Variant

def all : List Variant := [
  .contractDescribe, .contractPublish, .docsList, .fetch, .supergraphSchema, .compositionResult,
  .subgraphList, .check, .asyncCheck, .graphPublish, .subgraphPublish, .subgraphDelete,
  .templateList, .templateUse, .profiles, .introspection, .errorExplanation, .readmeFetch,
  .readmePublish, .emptySuccess]

theorem mem_all (variant : Variant) : variant ∈ all := by
  cases variant <;> decide

def name : Variant → String
  | .contractDescribe => "ContractDescribe"
  | .contractPublish => "ContractPublish"
  | .docsList => "DocsList"
  | .fetch => "Fetch"
  | .supergraphSchema => "SupergraphSchema"
  | .compositionResult => "CompositionResult"
  | .subgraphList => "SubgraphList"
  | .check => "Check"
  | .asyncCheck => "AsyncCheck"
  | .graphPublish => "GraphPublish"
  | .subgraphPublish => "SubgraphPublish"
  | .subgraphDelete => "SubgraphDelete"
  | .templateList => "TemplateList"
  | .templateUse => "TemplateUseSuccess"
  | .profiles => "Profiles"
  | .introspection => "Introspection"
  | .errorExplanation => "ErrorExplanation"
  | .readmeFetch => "ReadmeFetch"
  | .readmePublish => "ReadmePublish"
  | .emptySuccess => "EmptySuccess"

end Variant

def variant : Output → Variant
  | .contractDescribe .. => .contractDescribe
  | .contractPublish .. => .contractPublish
  | .docsList .. => .docsList
  | .fetch .. => .fetch
  | .supergraphSchema .. => .supergraphSchema
  | .compositionResult .. => .compositionResult
  | .subgraphList .. => .subgraphList
  | .check .. => .check
  | .asyncCheck .. => .asyncCheck
  | .graphPublish .. => .graphPublish
  | .subgraphPublish .. => .subgraphPublish
  | .subgraphDelete .. => .subgraphDelete
  | .templateList .. => .templateList
  | .templateUse .. => .templateUse
  | .profiles .. => .profiles
  | .introspection .. => .introspection
  | .errorExplanation .. => .errorExplanation
  | .readmeFetch .. => .readmeFetch
  | .readmePublish .. => .readmePublish
  | .emptySuccess => .emptySuccess

def sortedShortlinks (shortlinks : List (String × String)) : List (String × String) :=
  shortlinks.mergeSort fun a b => decide (a.1 ≤ b.1)

def buildErrors : Output → List BuildError
  | .subgraphPublish _ _ response => response.buildErrors
  | .subgraphDelete _ _ _ response => response.buildErrors
  | _ => []

/-- The failure that is reported next to a success: composing the supergraph failed, although the
subgraph was written. -/
def companion : Output → Option Failure
  | .subgraphPublish graph subgraph response =>
      if response.buildErrors.isEmpty then none
      else some (.buildErrors response.buildErrors (some subgraph) (some graph))
  | .subgraphDelete graph subgraph _ response =>
      if response.buildErrors.isEmpty then none
      else some (.buildErrors response.buildErrors (some subgraph) (some graph))
  | _ => none

theorem companion_eq_none_iff (output : Output) :
    output.companion = none ↔ output.buildErrors = [] := by
  cases output <;> simp [companion, buildErrors]

end Output

inductive Answer
  | known (output : Output)
  | foreign (name : String)
deriving DecidableEq, Repr

inductive Outcome
  | success (answer : Answer)
  | failure (failure : Failure)
deriving DecidableEq, Repr

namespace Outcome

/-- Zero for every success, also one that has a companion failure. -/
def exitCode : Outcome → Nat
  | .success _ => 0
  | .failure _ => 1

end Outcome

end GraphConsole
