import GraphConsole.CommandLine.Run
import GraphConsole.Proofs.Service.Secrecy

/-! No command discloses a key. What is sent to a collaborator are the words of the command line and
the files that they name as sources; a client is opened for a profile, whatever its key. -/

namespace GraphConsole.Command

open GraphConsole.Files
open GraphConsole.Registry
open GraphConsole.Service
open GraphConsole.Text

variable {veil : Veil} {fetcher : Fetcher}

theorem reticent_request (operation : String) (graph : GraphRef) (request : Request)
    {output : request.method.Answer → Action Output}
    (made : ∀ answer, Reticent veil fetcher (output answer) (output answer)) :
    Reticent veil fetcher (Action.during operation (some graph) (askRegistry request) >>= output)
      (Action.during operation (some graph) (askRegistry request) >>= output) :=
  .bind (.during operation (some graph) (.registry request)) made

/-! Commands without a registry. -/

theorem reticent_openDocs (slug : String) :
    Reticent veil fetcher (openDocs slug) (openDocs slug) := by
  unfold openDocs
  split
  · exact .bind (.launch _) fun _ => .pure _
  · exact .fail _

theorem reticent_explain (code : String) : Reticent veil fetcher (explain code) (explain code) := by
  unfold explain
  split
  · exact .pure _
  · exact .fail _

theorem reticent_listTemplates (language : Option Language) :
    Reticent veil fetcher (listTemplates language) (listTemplates language) := by
  unfold listTemplates
  split
  · exact .pure _
  · exact .fail _

theorem isOccupied_eq {left right : Tree} (covers : veil.Covers left right) (path : Path) :
    isOccupied path right = isOccupied path left := by
  unfold isOccupied
  rw [covers.isEmptyAt_eq]
  rcases covers.inspect_cases path with same | ⟨first, second, one, two⟩
  · rw [same]
  · rw [one, two]

theorem reticent_useTemplate (respects : fetcher.Respects veil) (id : String) (path : Path) :
    Reticent veil fetcher (useTemplate id path) (useTemplate id path) := by
  unfold useTemplate
  split
  · exact .fail _
  · next template _ =>
      refine .bind (.askFiles fun _ _ covers => isOccupied_eq covers path) fun taken => ?_
      have fetched : Reticent veil fetcher
          (askFetcher template path >>= fun _ => pure (Output.templateUse template path))
          (askFetcher template path >>= fun _ => pure (Output.templateUse template path)) :=
        .bind (.fetch respects template path) fun _ => .pure _
      cases taken with
      | true => exact .bind (.fail _) fun _ => fetched
      | false => exact fetched

theorem reticent_listProfiles (store : Profile.Store) :
    Reticent veil fetcher (listProfiles store) (listProfiles store) :=
  .bind (.askFiles fun _ _ covers => Profile.Store.names_eq covers store) fun _ => .pure _

/-- Keys are stored alike, each in the file of the profile, unless one of them is blank. -/
theorem reticent_saveProfile (store : Profile.Store) (name : String) {first second : String}
    (filled : trimmed first = "" ↔ trimmed second = "")
    (keys : trimmed first = trimmed second ∨
      veil = store.keyVeil name (trimmed first) (trimmed second)) :
    Reticent veil fetcher (saveProfile store name first) (saveProfile store name second) := by
  have saved : Reticent veil fetcher
      (do
        let path ← Action.onFiles (store.save name (trimmed first))
        Action.info ("Saved API key for profile " ++ name ++ " to " ++ path.toText)
        return Output.emptySuccess)
      (do
        let path ← Action.onFiles (store.save name (trimmed second))
        Action.info ("Saved API key for profile " ++ name ++ " to " ++ path.toText)
        return Output.emptySuccess) := by
    refine .bind (.onFiles fun _ _ covers => ?_) fun _ => .bind (.info _) fun _ => .pure _
    exact Profile.Store.save_apart covers store name keys
  have same : (trimmed second).isEmpty = (trimmed first).isEmpty := by
    rw [Bool.eq_iff_iff, String.isEmpty_iff, String.isEmpty_iff, filled]
  unfold saveProfile
  simp only [same]
  split
  · exact .bind (.fail _) fun _ => saved
  · exact saved

theorem reticent_introspect (endpoint : String) (headers : List (String × String)) :
    Reticent veil fetcher (introspect endpoint headers) (introspect endpoint headers) :=
  .bind (.during _ none (.introspector endpoint headers)) fun _ => .pure _

theorem reticent_composeSupergraph (subgraphs : List (String × String)) (includeHints : Bool) :
    Reticent veil fetcher (composeSupergraph subgraphs includeHints)
      (composeSupergraph subgraphs includeHints) :=
  .bind (.composer subgraphs) fun _ => .pure _

theorem readSources_eq {left right : Tree} (covers : veil.Covers left right)
    {sources : List (String × Path)} (spares : veil.Spares (sources.map Prod.snd)) :
    readSources right sources = readSources left sources := by
  induction sources with
  | nil => rfl
  | cons source rest induction =>
      obtain ⟨name, path⟩ := source
      obtain ⟨here, others⟩ := List.forall_mem_cons.mp spares
      rw [readSources, readSources, covers.text_eq here, induction others]

theorem reticent_readSubgraphSchemas {sources : List (String × Path)}
    (spares : veil.Spares (sources.map Prod.snd)) :
    Reticent veil fetcher (readSubgraphSchemas sources) (readSubgraphSchemas sources) := by
  refine .askFiles fun left right covers => ?_
  unfold schemasOf
  split
  · rfl
  · exact readSources_eq covers spares

end GraphConsole.Command

namespace GraphConsole.CommandLine

open GraphConsole.Command
open GraphConsole.Files
open GraphConsole.Registry
open GraphConsole.Service

/-! The files whose content a command passes on. -/

def Source.paths : Source → List Path
  | .file path => [path]
  | .standardInput => []

def GraphTask.sources : GraphTask → List Path
  | .publishGraph schema => schema.paths
  | .checkGraph schema _ => schema.paths
  | .publishSubgraph _ schema _ => schema.paths
  | .publishReadme file => file.paths
  | _ => []

def Task.sources : Task → List Path
  | .compose sources _ => sources.map Prod.snd
  | .onGraph _ _ task => task.sources
  | _ => []


variable {veil : Veil} {fetcher : Fetcher}

theorem reticent_readSource {source : Source} (spares : veil.Spares source.paths) :
    Reticent veil fetcher (readSource source) (readSource source) := by
  cases source with
  | file path =>
      refine .askFiles fun left right covers => ?_
      rw [covers.text_eq (spares path List.mem_cons_self)]
  | standardInput => exact .bind .takeInput fun _ => .pure _

variable {application other : Application}

theorem reticent_openGraph (undisclosed : application.Undisclosed veil other)
    (profile reference : String) :
    Reticent veil fetcher (openGraph application profile reference)
      (openGraph other profile reference) :=
  .bind (.openClient undisclosed profile) fun _ => .ofExcept _

theorem reticent_graphAction (graph : GraphRef) {task : GraphTask}
    (spares : veil.Spares task.sources) :
    Reticent veil fetcher (graphAction graph task) (graphAction graph task) := by
  cases task with
  | fetchGraph => exact reticent_request _ _ _ fun _ => .pure _
  | publishGraph schema =>
      exact .bind (reticent_readSource spares) fun _ => reticent_request _ _ _ fun _ => .pure _
  | checkGraph schema background =>
      exact .bind (reticent_readSource spares) fun _ =>
        reticent_request _ _ _ fun _ => .ofExcept _
  | listSubgraphs => exact reticent_request _ _ _ fun _ => .pure _
  | fetchSubgraph name =>
      refine .bind (.recover (.during _ _ (.registry _)) fun fault => ?_) fun _ => .pure _
      split
      · exact .bind (.during _ _ (.registry _)) fun _ => .fail _
      · exact .throw _
  | publishSubgraph name schema routingUrl =>
      exact .bind (reticent_readSource spares) fun _ => reticent_request _ _ _ fun _ => .pure _
  | fetchSupergraph => exact reticent_request _ _ _ fun _ => .pure _
  | fetchReadme => exact reticent_request _ _ _ fun _ => .pure _
  | publishReadme file =>
      exact .bind (reticent_readSource spares) fun _ => reticent_request _ _ _ fun _ => .pure _
  | describeContract => exact reticent_request _ _ _ fun _ => .pure _
  | publishContract sourceVariant includeTags excludeTags =>
      exact reticent_request _ _ _ fun _ => .pure _

theorem reticent_deletionAction (undisclosed : application.Undisclosed veil other)
    (profile reference name : String) (dryRun : Bool) :
    Reticent veil fetcher (deletionAction application profile reference name dryRun)
      (deletionAction other profile reference name dryRun) :=
  .bind (reticent_openGraph undisclosed profile reference) fun _ =>
    reticent_request _ _ _ fun _ => .pure _

end GraphConsole.CommandLine
