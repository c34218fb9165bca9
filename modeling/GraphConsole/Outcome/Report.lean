import GraphConsole.Failure.Incident
import GraphConsole.Outcome.Explanation
import GraphConsole.Outcome.Output
import GraphConsole.Outcome.Table
import GraphConsole.Text.Decimal

/-! What people are told of an outcome: a heading, lines on what has been done, a body that can be
captured, and advice on what went wrong beside it. -/

namespace GraphConsole

open GraphConsole.Registry
open GraphConsole.Text

inductive Style
  | boldRed
  | boldYellow
  | boldCyan
deriving DecidableEq, Repr

def Style.name : Style → String
  | .boldRed => "bold red"
  | .boldYellow => "bold yellow"
  | .boldCyan => "bold cyan"

structure Line where
  label : Option (String × Style) := none
  message : String
deriving DecidableEq, Repr

namespace Line

def plain (line : Line) : List Char :=
  match line.label with
  | some (label, _) => Table.onPage label.toList ++ ' ' :: Table.onPage line.message.toList
  | none => Table.onPage line.message.toList

def plainText (line : Line) : String :=
  String.ofList line.plain

def spans (line : Line) : List (Nat × Nat × Style) :=
  match line.label with
  | some (label, style) => [(0, (Table.onPage label.toList).length, style)]
  | none => []

end Line

namespace Severity

def style : Severity → Style
  | .error => .boldRed
  | .warning => .boldYellow
  | .hint => .boldCyan

def label : Severity → String
  | .error => "error:"
  | .warning => "WARN:"
  | .hint => "HINT:"

def line (severity : Severity) (message : String) : Line :=
  ⟨some (severity.label, severity.style), message⟩

end Severity

namespace Failure

/-- The items as lines of a severity, which is the kind's own unless another is given. -/
def itemLines (failure : Failure) (severity : Option Severity := none) : List Line :=
  failure.items.map (severity.getD failure.severity).line

def headline (failure : Failure) : Line :=
  match failure.code with
  | some code => ⟨some ("error[" ++ code ++ "]:", .boldRed), failure.message⟩
  | none => Severity.error.line failure.message

def lines (failure : Failure) : List Line :=
  failure.headline :: failure.itemLines

end Failure

structure Report where
  descriptor : Option String := none
  inlineDescriptor : Bool := false
  status : List Line := []
  body : Option String := none
  advisory : List Line := []
deriving DecidableEq, Repr

namespace Report

def note (message : String) : Line :=
  { message := message }

def joinUrl (root path : String) : String :=
  String.ofList (dropTrailing (· == '/') root.toList) ++ "/"
    ++ String.ofList (path.toList.dropWhile (· == '/'))

def contractDescribe (response : ContractDescription) : Report where
  descriptor := some "Configuration Description"
  body := some (response.description ++ "\nView the variant's full configuration at "
    ++ joinUrl response.rootUrl ("graph/" ++ response.graph.name ++ "/settings/variant?variant="
      ++ response.graph.variant))

def nonEmpty (text : Option String) : Option String :=
  text.filter fun text => !text.isEmpty

def contractPublish (response : ContractPublication) : Report where
  descriptor := some "New Configuration Description"
  body := some (response.description ++ "\n" ++
    (nonEmpty response.launchNote).getD "No launch was triggered for this publish.")

def docsRows (shortlinks : List (String × String)) : List (List String) :=
  (Output.sortedShortlinks shortlinks).map fun (slug, description) => [slug, description]

def docsList (shortlinks : List (String × String)) : Report where
  status := [note ("You can open any of these documentation pages by running "
    ++ "`rover docs open <slug>`.")]
  body := some (Table.render ["Slug", "Description"] (docsRows shortlinks))

def fetch (schema : Schema) : Report where
  descriptor := some
    (match schema.kind with
      | .supergraph => "Supergraph Schema"
      | _ => "Schema")
  body := some schema.contents

def compositionResult (composition : Composition) : Report where
  descriptor := some "Supergraph Schema"
  status := composition.hints.map fun hint => Severity.hint.line hint.message
  body := some composition.supergraph

def subgraphRow (subgraph : Subgraph) : List String :=
  [subgraph.name, (nonEmpty subgraph.url).getD "unspecified",
    match subgraph.updatedAt.localTime with
    | some time => String.ofList time.toReadable
    | none => "N/A"]

def subgraphList (listing : SubgraphListing) : Report where
  body := some (Table.render ["Name", "Routing Url", "Last Updated"]
      (listing.subgraphs.map subgraphRow)
    ++ "\nView full details at "
    ++ joinUrl listing.rootUrl ("graph/" ++ listing.graph.name ++ "/service-list"))

def changeRow (change : SchemaChange) : List String :=
  [change.verdict.name, change.code, change.description]

def checkBody (report : CheckReport) : String :=
  joined "\n" <|
    ["Compared " ++ natText report.changes.length ++ " schema changes against "
      ++ intText report.operationCount ++ " operations",
      if report.changes.isEmpty then "There were no changes detected in the composed schema."
      else Table.render ["Change", "Code", "Description"] (report.changes.map changeRow)]
    ++ (match nonEmpty report.targetUrl with
      | some url => ["View full details at " ++ url]
      | none => [])

def check (report : CheckReport) : Report where
  descriptor := some "Check Result"
  body := some (checkBody report)

def asyncCheck (check : QueuedCheck) : Report where
  descriptor := some "Check Started"
  body := some ("Check successfully started with workflow ID: " ++ check.workflowId
    ++ "\nView full details at " ++ check.targetUrl)

def graphPublish (graph : GraphRef) (response : GraphPublication) : Report where
  descriptor := some "Schema Hash"
  inlineDescriptor := true
  status := [note (graph.toText ++ "#" ++ response.schemaHash ++ " published successfully "
    ++ response.changes.toText)]
  body := some response.schemaHash

def warning (message : String) : Line :=
  Severity.warning.line message

/-- The build errors behind an introduction, each as a warning; nothing without build errors. -/
def advice (companion : Option Failure) (introduction : String) (closing : List Line) :
    List Line :=
  match companion with
  | some failure => warning introduction :: failure.itemLines (some .warning) ++ closing
  | none => []

def subgraphPublish (output : Output) (graph : GraphRef) (subgraph : String)
    (response : SubgraphPublication) : Report where
  status :=
    [if response.subgraphCreated then
        note ("A new subgraph called '" ++ subgraph ++ "' was created in '" ++ graph.toText ++ "'")
      else note ("The '" ++ subgraph ++ "' subgraph in '" ++ graph.toText ++ "' was updated"),
      if response.supergraphUpdated then
        note ("The supergraph schema for '" ++ graph.toText ++ "' was updated, composed from the "
          ++ "updated '" ++ subgraph ++ "' subgraph")
      else note ("The supergraph schema for '" ++ graph.toText
        ++ "' was NOT updated with a new schema")]
    ++ ((nonEmpty response.launchNote).map note).toList
  advisory := advice output.companion "The following build errors occurred:" []

def deletionPreview (output : Output) (graph : GraphRef) (subgraph : String) : Report where
  status :=
    match output.companion with
    | some _ => []
    | none =>
        [warning ("At the time of checking, there would be no build errors resulting from "
            ++ "the deletion of this subgraph."),
          warning ("This is only a prediction. If the graph changes before confirming, "
            ++ "there could be build errors.")]
  advisory := advice output.companion
    ("Deleting the " ++ subgraph ++ " subgraph from " ++ graph.toText ++ " would result in the "
      ++ "following build errors:")
    [warning ("This is only a prediction. If the graph changes before confirming, "
      ++ "these errors could change.")]

def deletion (output : Output) (graph : GraphRef) (subgraph : String)
    (response : SubgraphDeletion) : Report where
  status :=
    [if response.supergraphUpdated then
        note ("The '" ++ subgraph ++ "' subgraph was removed from '" ++ graph.toText ++ "'. "
          ++ "The remaining subgraphs were composed.")
      else warning ("The supergraph schema for '" ++ graph.toText
        ++ "' was not updated. See errors below.")]
  advisory := advice output.companion
    ("There were build errors as a result of deleting the '" ++ subgraph ++ "' subgraph "
      ++ "from '" ++ graph.toText ++ "':") []

def templateRow (template : Template) : List String :=
  [template.title, template.id, template.language.name, template.repository]

def templateList (templates : List Template) : Report where
  body := some (Table.render ["Name", "ID", "Language", "Repo URL"] (templates.map templateRow))

def templateUse (template : Template) (path : Files.Path) : Report where
  descriptor := some "Project generated"
  body := some ("Successfully created a new project from the '" ++ template.id ++ "' template in "
    ++ path.toText ++ "\nRead the generated 'README.md' file for next steps.")

def profiles (names : List String) : Report where
  descriptor := some "Profiles"
  status := if names.isEmpty then [note "No profiles found."] else []
  body := some (joined "\n" names)

def ofOutput (output : Output) : Report :=
  match output with
  | .contractDescribe response => contractDescribe response
  | .contractPublish response => contractPublish response
  | .docsList shortlinks => docsList shortlinks
  | .fetch schema => fetch schema
  | .supergraphSchema coreSchema =>
      { descriptor := some "Supergraph Schema", body := some coreSchema }
  | .compositionResult composition => compositionResult composition
  | .subgraphList listing => subgraphList listing
  | .check report => check report
  | .asyncCheck queued => asyncCheck queued
  | .graphPublish graph response => graphPublish graph response
  | .subgraphPublish graph subgraph response => subgraphPublish output graph subgraph response
  | .subgraphDelete graph subgraph true _ => deletionPreview output graph subgraph
  | .subgraphDelete graph subgraph false response => deletion output graph subgraph response
  | .templateList templates => templateList templates
  | .templateUse template path => templateUse template path
  | .profiles names => profiles names
  | .introspection response =>
      { descriptor := some "Introspection Response", body := some response }
  | .errorExplanation markdown => { body := some (Explanation.render markdown) }
  | .readmeFetch _ content _ => { descriptor := some "Readme", body := some content }
  | .readmePublish graph _ _ =>
      { status := [note ("Readme for " ++ graph.toText ++ " published successfully")] }
  | .emptySuccess => {}

end Report

end GraphConsole
