import GraphConsole.Command.Catalog
import GraphConsole.Command.Composition
import GraphConsole.Command.Schema
import GraphConsole.Command.Variant
import GraphConsole.Proofs.Console.Showing
import GraphConsole.Proofs.Service.Conduct

/-! What handlers make of the faults of the services that they ask. A lost connection to the
registry or to an endpoint becomes a failure that names the operation; everything else passes. -/

namespace GraphConsole

namespace Incident

theorem ofReport_class {reported : String} {operands : List Json} {incident : Incident}
    (known : ofReport reported operands = .ok incident) :
    incident.name = narrowName (properName reported) operands ∧ incident.wider = [] := by
  simp only [ofReport] at known
  split at known
  · cases known
  · split at known
    · cases transfer : transferOperands operands with
      | error refused => simp [transfer, Except.map] at known
      | ok transferred =>
          simp only [transfer, Except.map, Except.ok.injEq] at known
          rw [← known]
          exact ⟨rfl, rfl⟩
    · cases known
      exact ⟨rfl, rfl⟩

theorem isTransport_iff (incident : Incident) :
    incident.isTransport = true ↔ ∃ name ∈ incident.name :: incident.wider,
      name ∈ connectionNames ∨ name = "TimeoutError" := by
  simp only [isTransport, isConnectionLoss, isTimeout, isOneOf, List.contains_eq_mem,
    Bool.or_eq_true, decide_eq_true_eq, List.any_eq_true, List.mem_cons, List.not_mem_nil,
    or_false]
  grind

theorem systemName_transport (number : Int) :
    systemName number ∈ connectionNames ∨ systemName number = "TimeoutError" ↔
      number ∈ [32, 103, 104, 108, 110, 111] := by
  unfold systemName
  split
  all_goals simp_all [connectionNames]

/-- The number that a system error comes with, if its operands are those of one with a number. -/
def systemNumber? : List Json → Option Int
  | number :: _ :: rest => if rest.length ≤ 3 then number.number? else none
  | _ => none

theorem narrowName_system (operands : List Json) :
    narrowName "OSError" operands = (systemNumber? operands).elim "OSError" systemName := by
  match operands with
  | [] => rfl
  | [_] => rfl
  | number :: _ :: rest =>
      by_cases short : rest.length ≤ 3
      · cases told : number.number? <;> simp [narrowName, systemNumber?, short, told]
      · simp [narrowName, systemNumber?, short]

/-- A system error is a lost connection if its number says so. -/
theorem isTransport_ofReport {reported : String} {operands : List Json} {incident : Incident}
    (system : properName reported = "OSError") (known : ofReport reported operands = .ok incident) :
    incident.isTransport = true ↔
      ∃ number ∈ [32, 103, 104, 108, 110, 111], systemNumber? operands = some number := by
  obtain ⟨name, ordinary⟩ := ofReport_class known
  rw [isTransport_iff, ordinary, name, system, narrowName_system]
  cases systemNumber? operands with
  | none => simp [connectionNames]
  | some number => simpa using systemName_transport number

end Incident

/-- A failure to reach a service during an operation. The reason is what the incident says, or else
its class, and is never empty, since classes have names. -/
structure Failure.Unreachable (operation : String) (graph : Option Registry.GraphRef)
    (incident : Incident) (failure : Failure) : Prop where
  known : failure.name = "TransportError"
  coded : failure.code = some "E004"
  worded : ∃ reason,
    failure.message = "Could not reach the registry while " ++ operation
      ++ (graph.elim "" fun graph => " for \"" ++ graph.toText ++ "\"") ++ ": " ++ reason ∧
    reason = (if incident.text.isEmpty then incident.name else incident.text) ∧
    (incident.name ≠ "" → reason ≠ "")

theorem Failure.message_transport (operation reason : String)
    (graph : Option Registry.GraphRef) :
    (Failure.transport operation reason graph).message =
      "Could not reach the registry while " ++ operation
        ++ (graph.elim "" fun graph => " for \"" ++ graph.toText ++ "\"") ++ ": " ++ reason := by
  cases graph with
  | none =>
      rw [Option.elim_none, String.append_empty]
      rfl
  | some graph =>
      have quoted : "\": " = "\"" ++ ": " := by decide
      unfold message
      rw [Option.elim_some, quoted]
      simp only [String.append_assoc]

theorem Fault.reason_ne_empty (fault : Fault) (named : fault.name ≠ "") : fault.reason ≠ "" := by
  simp only [Fault.reason]
  split
  · exact named
  · next worded => simpa using worded

theorem Failure.unreachable_transport (operation : String) (graph : Option Registry.GraphRef)
    (incident : Incident) :
    Failure.Unreachable operation graph incident
      (.transport operation (Fault.incident incident).reason graph) where
  known := by simp only [Failure.name]
  coded := by simp only [Failure.code, Failure.kind, Kind.code]
  worded := ⟨_, message_transport .., rfl, Fault.reason_ne_empty (.incident incident)⟩

namespace Command

open GraphConsole.Registry
open GraphConsole.Service

/-- A handler makes one call, whose arguments are its own, and wraps what comes of it. -/
structure Enriched (handler : Action Output) (call : Call) (reaction : World → Reaction α)
    (operation : String) (graph : Option GraphRef) (wrapped : α → Except Fault Output) :
    Prop where
  called : ∀ world, ∃ client introspector, (runIn handler world).2 =
    { world with
      calls := world.calls ++ [call], client := client, introspector := introspector }
  answered : ∀ world answer, reaction world = .ok answer →
    (runIn handler world).1 = wrapped answer
  lost : ∀ world incident, reaction world = .error (.incident incident) →
    incident.isTransport = true →
    ∃ failure, (runIn handler world).1 = .error (.failure failure) ∧
      failure.Unreachable operation graph incident
  others : ∀ world fault, reaction world = .error fault → fault.isTransport = false →
    (runIn handler world).1 = .error fault

/-- What a question to a service comes to, and that it is on record. -/
def Asks (ask : Action α) (call : Call) (reaction : World → Reaction α) : Prop :=
  ∀ world, ∃ client introspector, runIn ask world = (reaction world,
    { world with
      calls := world.calls ++ [call], client := client, introspector := introspector })

theorem enriched_of_asks {ask : Action α} {call : Call} {reaction : World → Reaction α}
    {next : α → Action Output} {wrapped : α → Except Fault Output} (asks : Asks ask call reaction)
    (operation : String) (graph : Option GraphRef)
    (wraps : ∀ answer world, runIn (next answer) world = (wrapped answer, world)) :
    Enriched (Action.during operation graph ask >>= next) call reaction operation graph
      wrapped := by
  -- All that is asked of a handler can be read off this one account of its run.
  have runs : ∀ world, ∃ client introspector,
      runIn (Action.during operation graph ask >>= next) world =
        ((reaction world).mapError (.during operation graph) >>= wrapped,
          { world with
            calls := world.calls ++ [call], client := client, introspector := introspector }) := by
    intro world
    obtain ⟨client, introspector, run⟩ := asks world
    refine ⟨client, introspector, ?_⟩
    have asked := runIn_during operation graph ask world
    rw [run] at asked
    cases result : reaction world with
    | ok answer =>
        rw [result] at asked
        rw [runIn_bind_ok asked, wraps]
        rfl
    | error fault =>
        rw [result] at asked
        exact runIn_bind_error asked
  constructor
  case called =>
    intro world
    obtain ⟨client, introspector, run⟩ := runs world
    exact ⟨client, introspector, by rw [run]⟩
  case answered =>
    intro world answer result
    obtain ⟨_, _, run⟩ := runs world
    rw [run, result]
    rfl
  case lost =>
    intro world incident result transport
    obtain ⟨_, _, run⟩ := runs world
    refine ⟨_, ?_, Failure.unreachable_transport operation graph incident⟩
    rw [run, result, ← Fault.during_of_transport operation graph transport]
    rfl
  case others =>
    intro world fault result other
    obtain ⟨_, _, run⟩ := runs world
    rw [run, result]
    exact congrArg Except.error (Fault.during_of_other operation graph other)

/-- A handler whose one call is a request to the registry. -/
abbrev EnrichedRequest (handler : Action Output) (request : Request) (operation : String)
    (wrapped : request.method.Answer → Except Fault Output) : Prop :=
  Enriched handler (.registry request)
    (fun world => (world.client.script request.method).reaction) operation (some request.graph)
    wrapped

theorem enriched_request (request : Request) (operation : String)
    {next : request.method.Answer → Action Output}
    {wrapped : request.method.Answer → Except Fault Output}
    (wraps : ∀ answer world, runIn (next answer) world = (wrapped answer, world)) :
    EnrichedRequest
      (Action.during operation (some request.graph) (askRegistry request) >>= next) request
      operation wrapped :=
  enriched_of_asks (fun world => ⟨_, _, runIn_askRegistry request world⟩) operation _ wraps

theorem enriched_wrapped (request : Request) (operation : String)
    (wrap : request.method.Answer → Output) :
    EnrichedRequest
      (Action.during operation (some request.graph) (askRegistry request) >>= fun answer =>
        pure (wrap answer))
      request operation fun answer => .ok (wrap answer) :=
  enriched_request request operation fun _ _ => rfl

/-- The registry's handlers but one, and the introspection of an endpoint, tell of a lost
connection in terms of what they were doing. A system error is a lost connection by its number. -/
structure EnrichedHandlers : Prop where
  listSubgraphs : ∀ graph, EnrichedRequest (listSubgraphs graph) (.listSubgraphs graph)
    "listing subgraphs" fun listing => .ok (.subgraphList listing)
  publishSubgraph : ∀ graph subgraph schema routingUrl,
    EnrichedRequest (publishSubgraph graph subgraph schema routingUrl)
      (.publishSubgraph graph subgraph schema routingUrl) "publishing subgraph"
      fun response => .ok (.subgraphPublish graph subgraph response)
  deleteSubgraph : ∀ graph subgraph dryRun,
    EnrichedRequest (deleteSubgraph graph subgraph dryRun) (.deleteSubgraph graph subgraph dryRun)
      (if dryRun then "checking subgraph deletion" else "deleting subgraph")
      fun response => .ok (.subgraphDelete graph subgraph dryRun response)
  fetchGraph : ∀ graph, EnrichedRequest (fetchGraph graph) (.fetchGraph graph)
    "fetching graph schema" fun schema => .ok (.fetch schema)
  publishGraph : ∀ graph schema, EnrichedRequest (publishGraph graph schema)
    (.publishGraph graph schema) "publishing graph schema"
    fun response => .ok (.graphPublish graph response)
  checkGraph : ∀ graph schema background,
    EnrichedRequest (checkGraph graph schema background) (.checkGraph graph schema background)
      "checking graph schema" fun
        | .queued check => .ok (.asyncCheck check)
        | .finished report =>
            if report.result = .fail then .error (.failure (.operationCheck graph report))
            else .ok (.check report)
  checkFailed : ∀ graph report,
    (Failure.operationCheck graph report).name = "OperationCheckFailure"
  fetchSupergraph : ∀ graph, EnrichedRequest (fetchSupergraph graph) (.fetchSupergraph graph)
    "fetching supergraph schema" fun schema => .ok (.fetch schema)
  fetchReadme : ∀ graph, EnrichedRequest (fetchReadme graph) (.fetchReadme graph)
    "fetching readme" fun readme => .ok (.readmeFetch graph readme.content readme.lastUpdated)
  publishReadme : ∀ graph content, EnrichedRequest (publishReadme graph content)
    (.publishReadme graph content) "publishing readme"
    fun readme => .ok (.readmePublish graph readme.content readme.lastUpdated)
  describeContract : ∀ graph, EnrichedRequest (describeContract graph) (.describeContract graph)
    "describing contract" fun contract => .ok (.contractDescribe contract)
  publishContract : ∀ graph sourceVariant includeTags excludeTags,
    EnrichedRequest (publishContract graph sourceVariant includeTags excludeTags)
      (.publishContract graph sourceVariant includeTags excludeTags) "publishing contract"
      fun publication => .ok (.contractPublish publication)
  introspect : ∀ endpoint headers,
    Enriched (introspect endpoint headers) (.introspect endpoint headers)
      (fun world => world.introspector.reaction) ("introspecting " ++ endpoint) none
      fun response => .ok (.introspection response)
  transport : ∀ incident : Incident, incident.isTransport = true ↔
    ∃ name ∈ incident.name :: incident.wider,
      name ∈ Incident.connectionNames ∨ name = "TimeoutError"
  system : ∀ reported operands incident, Incident.properName reported = "OSError" →
    Incident.ofReport reported operands = .ok incident →
    (incident.isTransport = true ↔
      ∃ number ∈ [32, 103, 104, 108, 110, 111], Incident.systemNumber? operands = some number)

theorem handlers_enriched : EnrichedHandlers where
  listSubgraphs graph := enriched_wrapped (.listSubgraphs graph) _ _
  publishSubgraph graph subgraph schema routingUrl :=
    enriched_wrapped (.publishSubgraph graph subgraph schema routingUrl) _ _
  deleteSubgraph graph subgraph dryRun :=
    enriched_wrapped (.deleteSubgraph graph subgraph dryRun) _ _
  fetchGraph graph := enriched_wrapped (.fetchGraph graph) _ _
  publishGraph graph schema := enriched_wrapped (.publishGraph graph schema) _ _
  checkGraph graph schema background :=
    enriched_request (.checkGraph graph schema background) _ fun answer world => by
      rw [runIn_ofExcept]
      cases answer with
      | queued check => rfl
      | finished report => cases judged : report.result <;> simp [checkOutput, judged]
  checkFailed graph report := by simp only [Failure.name]
  fetchSupergraph graph := enriched_wrapped (.fetchSupergraph graph) _ _
  fetchReadme graph := enriched_wrapped (.fetchReadme graph) _ fun readme =>
    .readmeFetch graph readme.content readme.lastUpdated
  publishReadme graph content := enriched_wrapped (.publishReadme graph content) _ fun readme =>
    .readmePublish graph readme.content readme.lastUpdated
  describeContract graph := enriched_wrapped (.describeContract graph) _ _
  publishContract graph sourceVariant includeTags excludeTags :=
    enriched_wrapped (.publishContract graph sourceVariant includeTags excludeTags) _ _
  introspect endpoint headers := enriched_of_asks
    (fun world => ⟨_, _, runIn_askIntrospector endpoint headers world⟩) _ _ fun _ _ => rfl
  transport := Incident.isTransport_iff
  system _ _ _ := Incident.isTransport_ofReport

/-- A registry that resets the connection when it is asked to delete, and that finds fault with
any schema. -/
def resettingClient (report : CheckReport) : Client :=
  (Client.silent.withScript .deleteSubgraph [
    .error (.incident ⟨"ConnectionResetError", [.integer 104, .string "reset"], []⟩)]).withScript
      .checkGraph [.ok (.finished report)]

theorem handlers_enriched_previewedDeletion :
    let graph : GraphRef := { name := "g" }
    let incident : Incident := ⟨"ConnectionResetError", [.integer 104, .string "reset"], []⟩
    let report := CheckReport.ofChanges none 1 [] .fail graph false
    let world : World := { client := resettingClient report }
    Incident.ofReport "IOError" [.integer 104, .string "reset"] = .ok incident ∧
      incident.isTransport = true ∧
      (∃ failure, (runIn (deleteSubgraph graph "s" true) world).1 = .error (.failure failure) ∧
        failure.Unreachable "checking subgraph deletion" (some graph) incident) ∧
      (runIn (checkGraph graph "type Query" false) world).1 =
        .error (.failure (.operationCheck graph report)) := by
  intro graph incident report world
  have reported : Incident.ofReport "IOError" [.integer 104, .string "reset"] = .ok incident := by
    rfl
  have reset : incident.isTransport = true :=
    (handlers_enriched.system _ _ incident (by rfl) reported).mpr ⟨104, by decide, by rfl⟩
  have lost := (handlers_enriched.deleteSubgraph graph "s" true).lost world incident (by rfl) reset
  have failed := (handlers_enriched.checkGraph graph "type Query" false).answered world
    (.finished report) (by rfl)
  exact ⟨reported, reset, lost, failed⟩

/-! The composition engine and the fetcher of templates are asked outside of any operation. -/

/-- A handler makes one call and ends with the very fault that comes of it. It tells of a lost
connection only where the service did so itself, and has no code for an incident. -/
structure Unenriched (handler : Action Output) (call : Call) (world : World) (fault : Fault) :
    Prop where
  called : (runIn handler world).2.calls = world.calls ++ [call]
  raised : (runIn handler world).1 = .error fault
  enriched : (∃ failure, (runIn handler world).1 = .error (.failure failure) ∧
      failure.code = some "E004") ↔
    ∃ failure, fault = .failure failure ∧ failure.code = some "E004"
  shown : ∀ incident, fault = .incident incident → ∀ (dispatcher : Dispatcher) emitSuccess,
    ∃ emission,
      dispatcher.run ((runIn handler world).1.map .known) emitSuccess = .ok (1, emission) ∧
        Dispatcher.Tells none (if incident.text.isEmpty then incident.name else incident.text)
          dispatcher.format emission

theorem unenriched_of_runIn {handler : Action Output} {call : Call} {world after : World}
    {fault : Fault} (run : runIn handler world = (.error fault, after))
    (called : after.calls = world.calls ++ [call]) : Unenriched handler call world fault := by
  constructor
  case called => rw [run, called]
  case raised => rw [run]
  case enriched => simp [run]
  case shown =>
    rintro incident rfl dispatcher emitSuccess
    have reported := Fault.reported?_incident incident
    have told := dispatcher.tells_shown (.unclassified (Fault.incident incident).reason)
    rw [run]
    exact ⟨_, dispatcher.run_reported reported emitSuccess, told⟩

/-- There is nothing at a path, or an empty directory. -/
def Vacant (path : Files.Path) (tree : Files.Tree) : Prop :=
  tree.inspect path = .ok none ∨
    tree.inspect path = .ok (some .directory) ∧ tree.isEmptyAt path = true

theorem isOccupied_of_vacant {path : Files.Path} {tree : Files.Tree} (vacant : Vacant path tree) :
    isOccupied path tree = .ok false := by
  unfold isOccupied
  obtain absent | ⟨directory, empty⟩ := vacant
  · rw [absent]
  · rw [directory, empty]
    rfl

theorem find?_catalog :
    ∀ template ∈ Template.catalog, Template.find? template.id = some template := by
  decide

/-- Where a template is asked for that there is, and there is room for it, all that is done is to
ask the fetcher. -/
theorem runIn_useTemplate {template : Template} (offered : template ∈ Template.catalog)
    {path : Files.Path} {world : World} (vacant : Vacant path world.files) :
    runIn (useTemplate template.id path) world =
      runIn (askFetcher template path >>= fun _ => pure (.templateUse template path)) world := by
  have room : runIn (Action.askFiles (isOccupied path)) world = (.ok false, world) := by
    rw [runIn_askFiles, isOccupied_of_vacant vacant]
  rw [useTemplate, templateOf, find?_catalog template offered]
  exact runIn_bind_ok room

/-- Whatever is the matter with the composition engine or the fetcher of templates, a connection
lost or a timeout included, is told as it comes. -/
theorem composition_and_fetching_unenriched (world : World) (fault : Fault) :
    (∀ subgraphs includeHints, world.composer.reaction = .error fault →
      Unenriched (composeSupergraph subgraphs includeHints) (.compose subgraphs) world fault) ∧
    ∀ template ∈ Template.catalog, ∀ path, Vacant path world.files →
      (world.fetcher template path world.files).1 = .error fault →
      Unenriched (useTemplate template.id path) (.fetchTemplate template.id path) world fault := by
  constructor
  · intro subgraphs includeHints raised
    have asked := runIn_askComposer subgraphs world
    rw [raised] at asked
    exact unenriched_of_runIn (runIn_bind_error asked) rfl
  · intro template offered path vacant raised
    have asked := runIn_askFetcher template path world
    rw [raised] at asked
    have run := (runIn_useTemplate offered vacant).trans (runIn_bind_error asked)
    exact unenriched_of_runIn run rfl

def refusedConnection : Incident :=
  ⟨"ConnectionRefusedError", [.string "refused"], []⟩

def lateAnswer : Incident :=
  ⟨"TimeoutError", [], []⟩

/-- A world in which neither the composition engine nor any template can be reached. -/
def offline : World where
  composer := [.error (.incident refusedConnection)]
  fetcher _ _ tree := (.error (.incident lateAnswer), tree)

def firstTemplate : Template :=
  Template.catalog.head (by decide)

theorem vacant_offline : Vacant (.ofText "project") offline.files := .inl rfl

theorem composition_and_fetching_unenriched_offline :
    (refusedConnection.isTransport = true ∧
      Unenriched (composeSupergraph [("a", "type Query")] true) (.compose [("a", "type Query")])
        offline (.incident refusedConnection)) ∧
      lateAnswer.isTransport = true ∧ Vacant (.ofText "project") offline.files ∧
      Unenriched (useTemplate firstTemplate.id (.ofText "project"))
        (.fetchTemplate firstTemplate.id (.ofText "project")) offline (.incident lateAnswer) := by
  have composing := (composition_and_fetching_unenriched offline (.incident refusedConnection)).1
  have fetching := (composition_and_fetching_unenriched offline (.incident lateAnswer)).2
  refine ⟨⟨by rfl, composing _ _ rfl⟩, by rfl, vacant_offline, ?_⟩
  exact fetching firstTemplate (List.head_mem _) _ vacant_offline rfl

/-- Connections lost by the composition engine and timeouts of the fetcher do not become failures
to reach a service. -/
theorem not_enriched_offline :
    ¬ (∀ (world : World) subgraphs includeHints incident,
      world.composer.reaction = .error (.incident incident) → incident.isTransport = true →
      ∃ failure, (runIn (composeSupergraph subgraphs includeHints) world).1 =
        .error (.failure failure) ∧ failure.code = some "E004") ∧
    ¬ ∀ (world : World), ∀ template ∈ Template.catalog, ∀ path incident,
      Vacant path world.files →
      (world.fetcher template path world.files).1 = .error (.incident incident) →
      incident.isTransport = true →
      ∃ failure, (runIn (useTemplate template.id path) world).1 =
        .error (.failure failure) ∧ failure.code = some "E004" := by
  constructor
  · intro always
    obtain ⟨failure, enriched, _⟩ := always offline [("a", "type Query")] true
      refusedConnection rfl (by rfl)
    have passed : (runIn (composeSupergraph [("a", "type Query")] true) offline).1 =
        .error (.incident refusedConnection) := by rfl
    rw [passed] at enriched
    cases enriched
  · intro always
    obtain ⟨failure, enriched, _⟩ := always offline firstTemplate (List.head_mem _)
      (.ofText "project") lateAnswer vacant_offline rfl (by rfl)
    have passed : (runIn (useTemplate firstTemplate.id (.ofText "project")) offline).1 =
        .error (.incident lateAnswer) := by rfl
    rw [passed] at enriched
    cases enriched

end Command

end GraphConsole
