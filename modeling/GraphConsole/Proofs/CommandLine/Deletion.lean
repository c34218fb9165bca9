import GraphConsole.Proofs.Command.Calls
import GraphConsole.Proofs.CommandLine.Endings

/-! Deletions: the calls that one makes, the question in front of it, and how a run comes out in
which it is not confirmed in advance. -/

namespace GraphConsole.CommandLine

open GraphConsole.Command
open GraphConsole.Registry
open GraphConsole.Service
open GraphConsole.Text

def deletions (calls : List Call) : List Bool :=
  calls.filterMap deletion?

theorem deletions_append (early late : List Call) :
    deletions (early ++ late) = deletions early ++ deletions late :=
  List.filterMap_append

theorem deletions_eq_nil {calls : List Call} (other : ∀ call ∈ calls, deletion? call = none) :
    deletions calls = [] :=
  List.filterMap_eq_nil_iff.mpr other

/-! One deletion, previewed or real. -/

theorem runIn_deleteSubgraph_world (graph : GraphRef) (name : String) (dryRun : Bool)
    (world : World) :
    let after := (runIn (Command.deleteSubgraph graph name dryRun) world).2
    after.calls = world.calls ++ [.registry (.deleteSubgraph graph name dryRun)] ∧
      after.input = world.input ∧ after.files = world.files := by
  unfold Command.deleteSubgraph
  rw [runIn_map_world, runIn_during_world, runIn_askRegistry]
  exact ⟨rfl, rfl, rfl⟩

/-- What an opening does not even touch it keeps. -/
theorem openGraph_keeps (part : World → β)
    (apart : ∀ (world : World) calls openings client,
      part { world with calls := calls, openings := openings, client := client } = part world)
    (application : Application) (profile reference : String) :
    Leads (Kept part) (openGraph application profile reference) := by
  have parsed : ∀ result : Except Fault GraphRef, Leads (Kept part) (Action.ofExcept result) := by
    intro result world
    rw [runIn_ofExcept]
    rfl
  refine .bind .trans ?_ fun _ => parsed _
  unfold Application.openClient
  cases application.client with
  | none => exact fun _ => rfl
  | some usual =>
      refine .bind .trans (fun _ => rfl) fun found world => ?_
      rw [runIn_askFactory]
      cases world.opening usual with
      | ok client => exact apart world _ _ _
      | error fault => exact apart world _ _ _

theorem deletionAction_keeps_files (application : Application)
    (profile reference name : String) (dryRun : Bool) :
    Leads (Kept World.files) (deletionAction application profile reference name dryRun) :=
  .bind .trans (openGraph_keeps World.files (fun _ _ _ _ => rfl) application profile reference)
    fun graph world => (runIn_deleteSubgraph_world graph name dryRun world).2.2

theorem openGraph_deletes_nothing (application : Application) (profile reference : String) :
    Leads (Calls fun call => deletion? call = none) (openGraph application profile reference) :=
  (composed_openGraph application profile reference fun _ _ => rfl).calls

/-- A deletion asks the registry for itself once, or fails before. -/
theorem runIn_deletionAction (application : Application) (profile reference name : String)
    (dryRun : Bool) (world : World) {result : Except Fault Output} {after : World}
    (run : runIn (deletionAction application profile reference name dryRun) world =
      (result, after)) :
    ∃ made, after.calls = world.calls ++ made ∧ after.input = world.input ∧
      (deletions made = [dryRun] ∨ deletions made = [] ∧ ∃ fault, result = .error fault) := by
  obtain ⟨opening, opened, harmless⟩ :=
    openGraph_deletes_nothing application profile reference world
  have input := openGraph_keeps World.input (fun _ _ _ _ => rfl) application profile reference world
  unfold deletionAction at run
  cases openRun : runIn (openGraph application profile reference) world with
  | mk found middle =>
      rw [openRun] at opened input
      cases found with
      | error fault =>
          rw [runIn_bind_error openRun] at run
          cases run
          exact ⟨opening, opened, input, .inr ⟨deletions_eq_nil harmless, fault, rfl⟩⟩
      | ok graph =>
          rw [runIn_bind_ok openRun] at run
          obtain ⟨asked, kept, _⟩ := runIn_deleteSubgraph_world graph name dryRun middle
          rw [run] at asked kept
          refine ⟨opening ++ [.registry (.deleteSubgraph graph name dryRun)], ?_,
            kept.trans input, .inl ?_⟩
          · rw [asked, opened, List.append_assoc]
          · rw [deletions_append, deletions_eq_nil harmless]
            rfl

theorem previewed_of_ok {application : Application} {profile reference name : String}
    {dryRun : Bool} {world after : World} {output : Output}
    (run : runIn (deletionAction application profile reference name dryRun) world =
      (.ok output, after)) :
    ∃ made, after.calls = world.calls ++ made ∧ after.input = world.input ∧
      deletions made = [dryRun] := by
  obtain ⟨made, added, input, asked⟩ := runIn_deletionAction application profile reference name
    dryRun world run
  rcases asked with asked | ⟨_, fault, failed⟩
  · exact ⟨made, added, input, asked⟩
  · cases failed

theorem concluded_deletion (dispatcher : Dispatcher) (application : Application)
    (profile reference name : String) (usage : Usage) (world : World) :
    ∃ made,
      (Transcript.ofRun usage (runIn (Step.conclude dispatcher
        (deletionAction application profile reference name false)) world)).world.calls =
          world.calls ++ made ∧
      deletions made ∈ [[], [false]] := by
  obtain ⟨code, emission, escaped, ended⟩ := ofRun_conclude_writes dispatcher
    (deletionAction application profile reference name false) usage world
  cases deletion : runIn (deletionAction application profile reference name false) world with
  | mk result after =>
      obtain ⟨made, added, _, deleted⟩ := runIn_deletionAction application profile reference name
        false world deletion
      rw [ended, deletion]
      refine ⟨made, added, ?_⟩
      rcases deleted with deleted | ⟨unmade, _⟩
      · simp [deleted]
      · simp [unmade]

/-! The question. -/

def firstDecisive (lines : List (List Char)) : Option Bool :=
  lines.findSome? decisive?

theorem askConfirmation_answer (lines : List (List Char)) :
    (askConfirmation lines).answer = firstDecisive lines := by
  induction lines with
  | nil => rfl
  | cons line rest induction =>
      unfold askConfirmation firstDecisive
      rw [List.findSome?_cons]
      cases decisive? line with
      | some answer => rfl
      | none => exact induction

section Consent

variable (dispatcher : Dispatcher) (name : String) (world : World)

theorem runIn_askConsent_yes (answer : firstDecisive (inputLines world.input) = some true) :
    ∃ after, runIn (askConsent dispatcher name) world = (.ok (), after) ∧
      after.calls = world.calls := by
  obtain ⟨written, rest, asked⟩ := Step.runIn_ask askConfirmation world
  rw [askConfirmation_answer, answer] at asked
  exact ⟨_, runIn_bind_ok asked, rfl⟩

theorem runIn_askConsent_no (answer : firstDecisive (inputLines world.input) = some false) :
    ∃ after, runIn (askConsent dispatcher name) world =
        (.error (.exit 0), wrote (dispatcher.shown (.success (.known .emptySuccess))) after) ∧
      after.calls = world.calls ∧ after.output = world.output := by
  obtain ⟨written, rest, asked⟩ := Step.runIn_ask askConfirmation world
  rw [askConfirmation_answer, answer, wrote_errors] at asked
  obtain ⟨record, cancel⟩ := runIn_cancelled name
    { world with input := rest, errors := world.errors ++ written }
  exact ⟨_, (runIn_bind_ok asked).trans (Step.runIn_conclude_ok cancel), rfl, rfl⟩

theorem runIn_askConsent_none (answer : firstDecisive (inputLines world.input) = none) :
    ∃ after, runIn (askConsent dispatcher name) world =
        (.error (.fault (.refusal .noAnswer)), after) ∧
      after.calls = world.calls ∧ after.output = world.output := by
  obtain ⟨written, rest, asked⟩ := Step.runIn_ask askConfirmation world
  rw [askConfirmation_answer, answer, wrote_errors] at asked
  exact ⟨_, runIn_bind_ok asked, rfl, rfl⟩

end Consent

/-! A deletion that is not confirmed in advance. -/

section Unconfirmed

variable (dispatcher : Dispatcher) (application : Application) (profile reference name : String)
variable (usage : Usage) {world after : World}

def unconfirmedRun (world : World) : Transcript :=
  .ofRun usage
    (runIn (deleteSubgraph dispatcher application profile reference name false) world)

theorem unconfirmedRun_failed {fault : Fault}
    (preview : runIn (deletionAction application profile reference name true) world =
      (.error fault, after)) :
    ∃ emission escaped,
      unconfirmedRun dispatcher application profile reference name usage world =
        ⟨fault.status, wrote emission after, escaped⟩ := by
  unfold unconfirmedRun
  rw [deleteSubgraph_unconfirmed, runIn_bind_error (Step.runIn_attempt_error preview)]
  obtain ⟨emission, escaped, same⟩ := Transcript.ofEnding_endingOf dispatcher usage fault
  exact ⟨emission, escaped, same after⟩

variable {output : Output}
variable (preview : runIn (deletionAction application profile reference name true) world =
  (.ok output, after))

include preview

theorem runIn_deleteSubgraph_previewed :
    runIn (deleteSubgraph dispatcher application profile reference name false) world =
      runIn (do
        askConsent dispatcher name
        Step.conclude dispatcher (deletionAction application profile reference name false))
        (wrote (if dispatcher.format != .json then dispatcher.shown (.success (.known output))
          else {}) after) := by
  rw [deleteSubgraph_unconfirmed]
  exact runIn_bind_ok (Step.runIn_attempt_ok preview)

theorem unconfirmedRun_declined
    (answer : firstDecisive (inputLines after.input) = some false) :
    ∃ before,
      unconfirmedRun dispatcher application profile reference name usage world =
        ⟨0, wrote (dispatcher.shown (.success (.known .emptySuccess))) before, none⟩ ∧
      before.calls = after.calls ∧
      before.output = after.output ++
        (if dispatcher.format != .json then dispatcher.shown (.success (.known output))
          else {}).output := by
  unfold unconfirmedRun
  rw [runIn_deleteSubgraph_previewed dispatcher application profile reference name preview]
  obtain ⟨before, declined, calls, written⟩ := runIn_askConsent_no dispatcher name (wrote _ after)
    answer
  rw [runIn_bind_error declined]
  exact ⟨before, rfl, calls, written⟩

theorem unconfirmedRun_unanswered
    (answer : firstDecisive (inputLines after.input) = none) :
    ∃ before,
      unconfirmedRun dispatcher application profile reference name usage world =
        ⟨1, wrote { errors := "Aborted!\n".toList } before, none⟩ ∧
      before.calls = after.calls := by
  unfold unconfirmedRun
  rw [runIn_deleteSubgraph_previewed dispatcher application profile reference name preview]
  obtain ⟨before, unanswered, calls, _⟩ := runIn_askConsent_none dispatcher name (wrote _ after)
    answer
  rw [runIn_bind_error unanswered]
  exact ⟨before, Transcript.failing_eq 1 before _, calls⟩

theorem unconfirmedRun_consented
    (answer : firstDecisive (inputLines after.input) = some true) :
    ∃ made,
      (unconfirmedRun dispatcher application profile reference name usage world).world.calls =
        after.calls ++ made ∧
      deletions made ∈ [[], [false]] := by
  unfold unconfirmedRun
  rw [runIn_deleteSubgraph_previewed dispatcher application profile reference name preview]
  obtain ⟨before, consented, calls⟩ := runIn_askConsent_yes dispatcher name (wrote _ after) answer
  have same : before.calls = after.calls := calls
  rw [runIn_bind_ok consented, ← same]
  exact concluded_deletion dispatcher application profile reference name usage before

end Unconfirmed

end GraphConsole.CommandLine
