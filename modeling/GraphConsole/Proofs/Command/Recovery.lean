import GraphConsole.Proofs.Command.Enrichment

/-! Fetching a subgraph that may not be there. Where the registry does not say which subgraphs there
are, it is asked once more, for all of them, so that the failure can name them. -/

namespace GraphConsole.Command

open GraphConsole.Registry
open GraphConsole.Service
open GraphConsole.Text

/-- There is no such subgraph, and no word on which there are. -/
def Unlisted (reaction : Reaction α) : Prop :=
  ∃ missing, reaction = .error (.failure (.subgraphNotFound missing []))

section Fetching

variable (graph : GraphRef) (subgraph : String) (world : World)

/-- The world when it has been asked for a subgraph. -/
def afterFetching : World :=
  { world with
    calls := world.calls ++ [.registry (.fetchSubgraph graph subgraph)]
    client := world.client.advance .fetchSubgraph }

/-- The world when it has been asked for all subgraphs as well. -/
def afterListing : World :=
  { world with
    calls := world.calls
      ++ [.registry (.fetchSubgraph graph subgraph), .registry (.listSubgraphs graph)]
    client := (world.client.advance .fetchSubgraph).advance .listSubgraphs }

/-- The fault that a listing ends in, with or without subgraphs to name. -/
def listingFault : Reaction SubgraphListing → Fault
  | .ok listing => .failure (missingFrom listing subgraph)
  | .error fault => fault.during "listing subgraphs" (some graph)

theorem runIn_fetching :
    runIn (Action.during "fetching subgraph schema" (some graph)
        (askRegistry (.fetchSubgraph graph subgraph))) world =
      ((world.client.script .fetchSubgraph).reaction.mapError
        (.during "fetching subgraph schema" (some graph)),
        afterFetching graph subgraph world) := by
  rw [runIn_during, runIn_askRegistry]
  rfl

/-- To have been asked for a subgraph does not change how the registry lists them. -/
theorem runIn_listing :
    runIn (Action.during "listing subgraphs" (some graph) (askRegistry (.listSubgraphs graph)))
        (afterFetching graph subgraph world) =
      ((world.client.script .listSubgraphs).reaction.mapError
        (.during "listing subgraphs" (some graph)), afterListing graph subgraph world) := by
  have unmoved : (world.client.advance .fetchSubgraph).script .listSubgraphs =
      world.client.script .listSubgraphs :=
    Client.script_advance_of_ne _ (by decide)
  rw [runIn_during, runIn_askRegistry]
  simp only [afterFetching, afterListing, unmoved, List.append_assoc, List.cons_append,
    List.nil_append]

variable {graph subgraph world}

/-- Whatever else comes of the first request ends the matter. -/
theorem runIn_fetchSubgraph_listed
    (listed : ¬ Unlisted (world.client.script .fetchSubgraph).reaction) :
    runIn (fetchSubgraph graph subgraph) world =
      (((world.client.script .fetchSubgraph).reaction.mapError
        (.during "fetching subgraph schema" (some graph))).map .fetch,
        afterFetching graph subgraph world) := by
  have fetched := runIn_fetching graph subgraph world
  cases reacted : (world.client.script .fetchSubgraph).reaction with
  | ok schema =>
      rw [reacted] at fetched
      exact runIn_bind_ok (runIn_recover_ok fetched)
  | error fault =>
      rw [reacted] at fetched listed
      refine runIn_bind_error ((runIn_recover_error fetched).trans ?_)
      cases fault with
      | incident unforeseen =>
          by_cases lost : unforeseen.isTransport = true
          · rw [Fault.during_of_transport _ _ lost]
            rfl
          · rw [Fault.during_of_other _ _ (by simpa [Fault.isTransport] using lost)]
            rfl
      | failure known =>
          cases known with
          | subgraphNotFound missing existing =>
              cases existing with
              | nil => exact absurd ⟨missing, rfl⟩ listed
              | cons first others => rfl
          | _ => rfl
      | _ => rfl

theorem runIn_fetchSubgraph_unlisted
    (unlisted : Unlisted (world.client.script .fetchSubgraph).reaction) :
    runIn (fetchSubgraph graph subgraph) world =
      (.error (listingFault graph subgraph (world.client.script .listSubgraphs).reaction),
        afterListing graph subgraph world) := by
  obtain ⟨missing, raised⟩ := unlisted
  have fetched := runIn_fetching graph subgraph world
  have listed := runIn_listing graph subgraph world
  rw [raised] at fetched
  refine runIn_bind_error ((runIn_recover_error fetched).trans ?_)
  cases found : (world.client.script .listSubgraphs).reaction with
  | ok listing =>
      rw [found] at listed
      exact runIn_bind_ok listed
  | error fault =>
      rw [found] at listed
      exact runIn_bind_error listed

end Fetching

/-- What becomes of a request for a subgraph, told by the reaction to it and by the one to a request
for the listing. -/
structure Recovers (graph : GraphRef) (subgraph : String) (fetching : Reaction Schema)
    (listing : Reaction SubgraphListing) (before : World) (result : Except Fault Output)
    (after : World) : Prop where
  calledOnce : ¬ Unlisted fetching →
    after.calls = before.calls ++ [.registry (.fetchSubgraph graph subgraph)]
  calledTwice : Unlisted fetching →
    after.calls = before.calls
      ++ [.registry (.fetchSubgraph graph subgraph), .registry (.listSubgraphs graph)]
  kept : ∃ calls client, after = { before with calls := calls, client := client }
  fetched : ∀ output, result = .ok output ↔ ∃ schema, fetching = .ok schema ∧ output = .fetch schema
  lost : ∀ incident, fetching = .error (.incident incident) → incident.isTransport = true →
    ∃ failure, result = .error (.failure failure) ∧
      failure.Unreachable "fetching subgraph schema" (some graph) incident
  named : ∀ missing existing, existing ≠ [] →
    fetching = .error (.failure (.subgraphNotFound missing existing)) →
    result = .error (.failure (.subgraphNotFound missing existing))
  others : ∀ fault, fetching = .error fault → fault.isTransport = false → ¬ Unlisted fetching →
    result = .error fault
  listed : Unlisted fetching → ∀ found, listing = .ok found →
    ∃ failure, result = .error (.failure failure) ∧
      failure = .subgraphNotFound subgraph (found.subgraphs.map Subgraph.name) ∧
      failure.items = if found.subgraphs = [] then []
        else ["Valid subgraphs are: " ++ joined ", " (found.subgraphs.map Subgraph.name)]
  listingLost : Unlisted fetching → ∀ incident, listing = .error (.incident incident) →
    incident.isTransport = true →
    ∃ failure, result = .error (.failure failure) ∧
      failure.Unreachable "listing subgraphs" (some graph) incident
  listingOthers : Unlisted fetching → ∀ fault, listing = .error fault →
    fault.isTransport = false → result = .error fault

theorem items_missingFrom (listing : SubgraphListing) (subgraph : String) :
    (missingFrom listing subgraph).items = if listing.subgraphs = [] then []
      else ["Valid subgraphs are: " ++ joined ", " (listing.subgraphs.map Subgraph.name)] := by
  rw [missingFrom]
  cases listing.subgraphs <;> rfl

variable {graph : GraphRef} {subgraph : String} {world : World}

theorem recovers_of_unlisted (unlisted : Unlisted (world.client.script .fetchSubgraph).reaction) :
    Recovers graph subgraph (world.client.script .fetchSubgraph).reaction
      (world.client.script .listSubgraphs).reaction world
      (runIn (fetchSubgraph graph subgraph) world).1
      (runIn (fetchSubgraph graph subgraph) world).2 := by
  obtain ⟨missing, raised⟩ := id unlisted
  rw [runIn_fetchSubgraph_unlisted unlisted]
  constructor
  case calledOnce => exact fun listed => absurd unlisted listed
  case calledTwice => exact fun _ => rfl
  case kept => exact ⟨_, _, rfl⟩
  case fetched => simp [raised]
  case lost =>
    intro incident other
    rw [raised] at other
    cases other
  case named =>
    intro _ existing someNames other
    rw [raised] at other
    cases other
    exact absurd rfl someNames
  case others => exact fun _ _ _ listed => absurd unlisted listed
  case listed =>
    intro _ found answered
    rw [answered]
    exact ⟨_, rfl, rfl, items_missingFrom found subgraph⟩
  case listingLost =>
    intro _ incident failed transport
    rw [failed]
    refine ⟨_, ?_, Failure.unreachable_transport "listing subgraphs" (some graph) incident⟩
    exact congrArg Except.error (Fault.during_of_transport _ _ transport)
  case listingOthers =>
    intro _ fault failed other
    rw [failed]
    exact congrArg Except.error (Fault.during_of_other _ _ other)

theorem recovers_of_listed (listed : ¬ Unlisted (world.client.script .fetchSubgraph).reaction) :
    Recovers graph subgraph (world.client.script .fetchSubgraph).reaction
      (world.client.script .listSubgraphs).reaction world
      (runIn (fetchSubgraph graph subgraph) world).1
      (runIn (fetchSubgraph graph subgraph) world).2 := by
  rw [runIn_fetchSubgraph_listed listed]
  constructor
  case calledOnce => exact fun _ => rfl
  case calledTwice => exact fun unlisted => absurd unlisted listed
  case kept => exact ⟨_, _, rfl⟩
  case fetched =>
    intro output
    cases (world.client.script .fetchSubgraph).reaction with
    | ok schema =>
        constructor
        · intro same
          exact ⟨schema, rfl, (Except.ok.inj same).symm⟩
        · rintro ⟨_, same, rfl⟩
          cases same
          rfl
    | error fault =>
        constructor
        · intro same
          cases same
        · rintro ⟨_, same, _⟩
          cases same
  case lost =>
    intro incident raised transport
    rw [raised]
    refine ⟨_, ?_, Failure.unreachable_transport "fetching subgraph schema" (some graph) incident⟩
    exact congrArg Except.error (Fault.during_of_transport _ _ transport)
  case named =>
    intro missing existing _ raised
    rw [raised]
    exact congrArg Except.error (Fault.during_of_other _ _ rfl)
  case others =>
    intro fault raised other _
    rw [raised]
    exact congrArg Except.error (Fault.during_of_other _ _ other)
  case listed => exact fun unlisted => absurd unlisted listed
  case listingLost => exact fun unlisted => absurd unlisted listed
  case listingOthers => exact fun unlisted => absurd unlisted listed

/-- A subgraph that was asked for is got, or its absence is told with the subgraphs that there are,
or what went wrong with one of the at most two requests is told. -/
theorem fetchSubgraph_recovers (graph : GraphRef) (subgraph : String) (world : World) :
    Recovers graph subgraph (world.client.script .fetchSubgraph).reaction
      (world.client.script .listSubgraphs).reaction world
      (runIn (fetchSubgraph graph subgraph) world).1
      (runIn (fetchSubgraph graph subgraph) world).2 := by
  by_cases unlisted : Unlisted (world.client.script .fetchSubgraph).reaction
  · exact recovers_of_unlisted unlisted
  · exact recovers_of_listed unlisted

/-- A registry with two subgraphs, neither of which is the one that it is asked for. -/
def strictClient : Client :=
  (Client.silent.withScript .fetchSubgraph [.error (.failure (.subgraphNotFound "S" []))])
    |>.withScript .listSubgraphs [.ok {
      subgraphs := [{ name := "s" }, { name := "t" }], rootUrl := "", graph := { name := "g" } }]

theorem fetchSubgraph_recovers_mistyped :
    let graph : GraphRef := { name := "g" }
    let world : World := { client := strictClient }
    Unlisted (world.client.script .fetchSubgraph).reaction ∧
      (runIn (fetchSubgraph graph "S") world).2.calls =
        [.registry (.fetchSubgraph graph "S"), .registry (.listSubgraphs graph)] ∧
      ∃ failure, (runIn (fetchSubgraph graph "S") world).1 = .error (.failure failure) ∧
        failure.items = ["Valid subgraphs are: s, t"] := by
  intro graph world
  have recovers := fetchSubgraph_recovers graph "S" world
  have unlisted : Unlisted (world.client.script .fetchSubgraph).reaction := ⟨"S", rfl⟩
  obtain ⟨failure, raised, _, items⟩ := recovers.listed unlisted _ rfl
  exact ⟨unlisted, recovers.calledTwice unlisted, failure, raised, items⟩

end GraphConsole.Command
