import GraphConsole.CommandLine.Run
import GraphConsole.Proofs.Service.Conduct

/-! Every command is made of the services' own actions. The calls that it may make are those of its
own task, for the graph that it is about. -/

namespace GraphConsole.Command

open GraphConsole.Files
open GraphConsole.Registry
open GraphConsole.Service

variable {permitted : Call → Prop}

theorem composed_fail (failure : Failure) :
    Composed permitted (Action.fail failure : Action α) :=
  .throw (.failure failure)

theorem composed_ofExcept (result : Except Fault α) :
    Composed permitted (Action.ofExcept result) := by
  cases result with
  | ok value => exact .pure value
  | error fault => exact .throw fault

theorem composed_during {action : Action α} (operation : String) (graph : Option GraphRef)
    (composed : Composed permitted action) :
    Composed permitted (Action.during operation graph action) := by
  apply Composed.recover composed
  intro fault
  cases fault with
  | incident unforeseen =>
      by_cases transport : unforeseen.isTransport = true
      · simpa [transport] using composed_fail _
      · simpa [transport] using Composed.throw _
  | _ => exact .throw _

theorem composed_request (operation : String) (graph : GraphRef) (request : Request)
    (output : request.method.Answer → Action Output)
    (made : ∀ answer, Composed permitted (output answer))
    (allowed : permitted (.registry request)) :
    Composed permitted
      (Action.during operation (some graph) (askRegistry request) >>= output) :=
  .bind (composed_during operation (some graph) (.registry request allowed)) made

/-! Commands without a registry. -/

theorem composed_listDocs : Composed permitted listDocs := .pure _

theorem composed_openDocs (slug : String) : Composed permitted (openDocs slug) := by
  unfold openDocs
  split
  · exact .bind (.launch _) fun _ => .pure _
  · exact composed_fail _

theorem composed_explain (code : String) : Composed permitted (explain code) := by
  unfold explain
  split
  · exact .pure _
  · exact composed_fail _

theorem composed_listTemplates (language : Option Language) :
    Composed permitted (listTemplates language) := by
  unfold listTemplates
  split
  · exact .pure _
  · exact composed_fail _

theorem composed_useTemplate (id : String) (path : Path)
    (allowed : ∀ template : Template, permitted (.fetchTemplate template.id path)) :
    Composed permitted (useTemplate id path) := by
  unfold useTemplate
  split
  · exact composed_fail _
  · next template _ =>
      refine .bind (.askFiles _) fun taken => ?_
      have fetched : Composed permitted
          (askFetcher template path >>= fun _ => pure (Output.templateUse template path)) :=
        .bind (.fetcher template path (allowed template)) fun _ => .pure _
      cases taken with
      | true => exact .bind (composed_fail _) fun _ => fetched
      | false => exact fetched

theorem composed_listProfiles (store : Profile.Store) :
    Composed permitted (listProfiles store) :=
  .bind (.askFiles _) fun _ => .pure _

theorem composed_saveProfile (store : Profile.Store) (name apiKey : String) :
    Composed permitted (saveProfile store name apiKey) := by
  unfold saveProfile
  have saved : Composed permitted (do
      let path ← Action.onFiles (store.save name (Text.trimmed apiKey))
      Action.info ("Saved API key for profile " ++ name ++ " to " ++ path.toText)
      return Output.emptySuccess) :=
    .bind (.onFiles _) fun _ => .bind (.info _) fun _ => .pure _
  by_cases blank : (Text.trimmed apiKey).isEmpty = true
  · simp only [blank, if_true]
    exact .bind (composed_fail _) fun _ => saved
  · simp only [blank]
    exact saved

theorem composed_introspect (endpoint : String) (headers : List (String × String))
    (allowed : permitted (.introspect endpoint headers)) :
    Composed permitted (introspect endpoint headers) :=
  .bind (composed_during _ none (.introspector endpoint headers allowed)) fun _ => .pure _

theorem composed_readSubgraphSchemas (sources : List (String × Path)) :
    Composed permitted (readSubgraphSchemas sources) :=
  .askFiles _

theorem composed_composeSupergraph (subgraphs : List (String × String)) (includeHints : Bool)
    (allowed : permitted (.compose subgraphs)) :
    Composed permitted (composeSupergraph subgraphs includeHints) :=
  .bind (.composer subgraphs allowed) fun _ => .pure _

end GraphConsole.Command

namespace GraphConsole.CommandLine

open GraphConsole.Registry
open GraphConsole.Service
open GraphConsole.Command

variable {permitted : Call → Prop}

theorem composed_readSource (source : Source) : Composed permitted (readSource source) := by
  cases source with
  | file path =>
      unfold readSource
      exact .askFiles _
  | standardInput => exact .bind .takeInput fun _ => .pure _

theorem composed_openClient (application : Application) (profile : String)
    (allowed : ∀ name apiKey, permitted (.client name apiKey)) :
    Composed permitted (application.openClient profile) := by
  unfold Application.openClient
  split
  · exact composed_fail _
  · exact .bind (.askFiles _) fun found => .factory _ _ _ (allowed _ _)

theorem composed_need (service : Option α) (what : String) :
    Composed permitted (Application.need service what) := by
  unfold Application.need
  split
  · exact .pure _
  · exact composed_fail _

theorem composed_openGraph (application : Application) (profile reference : String)
    (allowed : ∀ name apiKey, permitted (.client name apiKey)) :
    Composed permitted (openGraph application profile reference) :=
  .bind (composed_openClient application profile allowed) fun _ => composed_ofExcept _

/-- Whether a call is a deletion, and then whether it is a dry run. -/
def deletion? : Call → Option Bool
  | .registry (.deleteSubgraph _ _ dryRun) => some dryRun
  | _ => none

theorem deletion?_of_method {request : Request} (other : request.method ≠ .deleteSubgraph) :
    deletion? (.registry request) = none := by
  cases request with
  | deleteSubgraph graph name dryRun => exact absurd rfl other
  | _ => rfl

/-- A task on a graph asks the registry for that graph only, and never to delete anything. -/
theorem composed_graphAction (graph : GraphRef) (task : GraphTask)
    (allowed : ∀ request : Request, request.graph = graph →
      request.method ≠ .deleteSubgraph → permitted (.registry request)) :
    Composed permitted (graphAction graph task) := by
  cases task with
  | fetchGraph =>
      exact composed_request _ _ _ _ (fun _ => .pure _) (allowed _ rfl (by simp))
  | publishGraph schema =>
      exact .bind (composed_readSource schema) fun _ =>
        composed_request _ _ _ _ (fun _ => .pure _) (allowed _ rfl (by simp))
  | checkGraph schema background =>
      exact .bind (composed_readSource schema) fun _ =>
        composed_request _ _ _ _ (fun _ => composed_ofExcept _) (allowed _ rfl (by simp))
  | listSubgraphs =>
      exact composed_request _ _ _ _ (fun _ => .pure _) (allowed _ rfl (by simp))
  | fetchSubgraph name =>
      have fetched : Composed permitted (Action.during "fetching subgraph schema" (some graph)
          (askRegistry (.fetchSubgraph graph name))) :=
        composed_during _ _ (.registry _ (allowed _ rfl (by simp)))
      refine .bind (.recover fetched fun fault => ?_) fun _ => .pure _
      split
      · exact .bind (composed_during _ _ (.registry _ (allowed _ rfl (by simp)))) fun _ =>
          composed_fail _
      · exact .throw _
  | publishSubgraph name schema routingUrl =>
      exact .bind (composed_readSource schema) fun _ =>
        composed_request _ _ _ _ (fun _ => .pure _) (allowed _ rfl (by simp))
  | fetchSupergraph =>
      exact composed_request _ _ _ _ (fun _ => .pure _) (allowed _ rfl (by simp))
  | fetchReadme =>
      exact composed_request _ _ _ _ (fun _ => .pure _) (allowed _ rfl (by simp))
  | publishReadme file =>
      exact .bind (composed_readSource file) fun _ =>
        composed_request _ _ _ _ (fun _ => .pure _) (allowed _ rfl (by simp))
  | describeContract =>
      exact composed_request _ _ _ _ (fun _ => .pure _) (allowed _ rfl (by simp))
  | publishContract sourceVariant includeTags excludeTags =>
      exact composed_request _ _ _ _ (fun _ => .pure _) (allowed _ rfl (by simp))

theorem composed_deletionAction (application : Application)
    (profile reference name : String) (dryRun : Bool)
    (client : ∀ name apiKey, permitted (.client name apiKey))
    (allowed : ∀ graph, permitted (.registry (.deleteSubgraph graph name dryRun))) :
    Composed permitted (deletionAction application profile reference name dryRun) :=
  .bind (composed_openGraph application profile reference client) fun graph =>
    composed_request _ _ _ _ (fun _ => .pure _) (allowed graph)

theorem discreet_deletionAction (application : Application) (profile reference name : String)
    (dryRun : Bool) : Discreet (deletionAction application profile reference name dryRun) := by
  have composed : Composed (fun _ => True)
      (deletionAction application profile reference name dryRun) :=
    composed_deletionAction application profile reference name dryRun
      (fun _ _ => trivial) fun _ => trivial
  exact composed.discreet

theorem composed_cancelled (name : String) : Composed permitted (cancelled name) :=
  .bind (.info _) fun _ => .pure _

/-- A task is to conclude with one action that deletes nothing, unless it stores a profile or
deletes a subgraph. -/
theorem perform_cases (permitted : Call → Prop) (application : Application) (task : Task)
    (allowed : ∀ call, deletion? call = none → permitted call) :
    (∃ action, Composed permitted action ∧
        ∀ dispatcher, perform dispatcher application task = Step.conclude dispatcher action) ∨
      (∃ name, task = .storeProfile name) ∨
      ∃ profile reference name confirmed,
        task = .deleteSubgraph profile reference name confirmed := by
  cases task with
  | listDocs => exact .inl ⟨_, composed_listDocs, fun _ => rfl⟩
  | openDocs slug => exact .inl ⟨_, composed_openDocs slug, fun _ => rfl⟩
  | explain code => exact .inl ⟨_, composed_explain code, fun _ => rfl⟩
  | listProfiles => exact .inl ⟨_, composed_listProfiles application.store, fun _ => rfl⟩
  | storeProfile name => exact .inr (.inl ⟨name, rfl⟩)
  | listTemplates language => exact .inl ⟨_, composed_listTemplates language, fun _ => rfl⟩
  | useTemplate id path =>
      refine .inl ⟨_, .bind (composed_need _ _) fun _ => ?_, fun _ => rfl⟩
      exact composed_useTemplate id path fun _ => allowed _ rfl
  | introspect endpoint headers =>
      refine .inl ⟨_, .bind (composed_need _ _) fun _ => ?_, fun _ => rfl⟩
      exact composed_introspect endpoint headers (allowed _ rfl)
  | compose sources skipHints =>
      refine .inl ⟨_, .bind (composed_need _ _) fun _ => ?_, fun _ => rfl⟩
      refine .bind (composed_readSubgraphSchemas sources) fun schemas => ?_
      exact composed_composeSupergraph schemas _ (allowed _ rfl)
  | onGraph profile reference task =>
      have opened : Composed permitted (openGraph application profile reference) :=
        composed_openGraph application profile reference fun _ _ => allowed _ rfl
      refine .inl ⟨_, .bind opened fun graph => ?_, fun _ => rfl⟩
      exact composed_graphAction graph task fun _ _ other => allowed _ (deletion?_of_method other)
  | deleteSubgraph profile reference name confirmed =>
      exact .inr (.inr ⟨profile, reference, name, confirmed, rfl⟩)

end GraphConsole.CommandLine
