import GraphConsole.Proofs.Command.Calls
import GraphConsole.Proofs.CommandLine.Format
import GraphConsole.Proofs.CommandLine.Endings

/-! The output format is a choice of rendering. Runs that differ in it alone make the same calls,
leave the same files, and end with the same exit code. -/

namespace GraphConsole.CommandLine

open GraphConsole.Command
open GraphConsole.Service
open GraphConsole.Text

theorem alike_wrote {left right : World} (alike : left.Alike right) (first second : Emission) :
    (wrote first left).Alike (wrote second right) := by
  obtain ⟨output, errors, rfl⟩ := alike
  exact ⟨output ++ second.output, errors ++ second.errors, rfl⟩

/-! Steps that differ in how outcomes are shown. -/

section Steps

variable {action : Action Output}

theorem matched_present (discreet : Discreet action) (first second : Dispatcher)
    (early late : Bool) :
    Matched (Step.present first action early) (Step.present second action late) := by
  intro left right alike
  obtain ⟨results, worlds⟩ := discreet.blind left right alike
  cases leftRun : runIn action left with
  | mk result leftWorld =>
      cases rightRun : runIn action right with
      | mk other rightWorld =>
          rw [leftRun, rightRun] at results worlds
          cases results
          cases result with
          | ok output =>
              rw [Step.runIn_present_ok leftRun, Step.runIn_present_ok rightRun]
              exact ⟨rfl, alike_wrote worlds _ _⟩
          | error fault =>
              cases reported : fault.reported? with
              | some failure =>
                  rw [Step.runIn_present_reported leftRun reported,
                    Step.runIn_present_reported rightRun reported]
                  exact ⟨rfl, alike_wrote worlds _ _⟩
              | none =>
                  rw [Step.runIn_present_unreported leftRun reported,
                    Step.runIn_present_unreported rightRun reported]
                  exact ⟨rfl, worlds⟩

theorem matched_conclude (discreet : Discreet action) (first second : Dispatcher) :
    Matched (Step.conclude first action) (Step.conclude second action) :=
  related_conclude (matched_present discreet first second true true)

theorem matched_ask (question : List (List Char) → Asked α) :
    Matched (Step.ask question) (Step.ask question) := by
  rintro left _ ⟨output, errors, rfl⟩
  exact ⟨rfl, _, _, rfl⟩

theorem matched_write (emission : Emission) :
    Matched (modify (wrote emission) : Step Unit) (modify (wrote emission)) := by
  intro left right alike
  exact ⟨rfl, alike_wrote alike emission emission⟩

end Steps

/-! Tasks. -/

theorem matched_storeProfile (first second : Dispatcher) (store : Profile.Store) (name : String) :
    Matched (storeProfile first store name) (storeProfile second store name) := by
  refine related_storeProfile (matched_ask askKey) (fun key => ?_) (matched_write _)
  have saved : Composed (fun _ => True) (saveProfile store name key) :=
    composed_saveProfile store name key
  exact matched_conclude saved.discreet first second

theorem matched_askConsent (first second : Dispatcher) (name : String) :
    Matched (askConsent first name) (askConsent second name) := by
  have cancel : Composed (fun _ => True) (cancelled name) := composed_cancelled name
  exact related_askConsent (matched_ask askConfirmation)
    (matched_conclude cancel.discreet first second)

/-- Whether the preview's success is shown has no part in what follows it. -/
theorem matched_deleteSubgraph (first second : Dispatcher) (application : Application)
    (profile reference name : String) (confirmed : Bool) :
    Matched (deleteSubgraph first application profile reference name confirmed)
      (deleteSubgraph second application profile reference name confirmed) := by
  have deletion := discreet_deletionAction application profile reference name
  exact related_deleteSubgraph (matched_present (deletion true) first second _ _)
    (matched_askConsent first second name) (matched_conclude (deletion false) first second)
    confirmed

theorem matched_perform (first second : Dispatcher) (application : Application) (task : Task) :
    Matched (perform first application task) (perform second application task) := by
  rcases perform_cases (fun _ => True) application task (fun _ _ => trivial) with
    ⟨action, composed, concluded⟩ | ⟨name, rfl⟩ | ⟨profile, reference, name, confirmed, rfl⟩
  · rw [concluded, concluded]
    exact matched_conclude composed.discreet first second
  · exact matched_storeProfile first second application.store name
  · exact matched_deleteSubgraph first second application profile reference name confirmed

/-! Whole runs. -/

/-- Two runs with the same effects; what they wrote to the streams may differ. -/
structure Transcript.SameEffects (first second : Transcript) : Prop where
  exitCode : first.exitCode = second.exitCode
  calls : first.world.calls = second.world.calls
  launched : first.world.launched = second.world.launched
  files : first.world.files = second.world.files
  input : first.world.input = second.world.input
  escaped : first.escaped = second.escaped

namespace Transcript

theorem sameEffects_of_alike {first second : Transcript}
    (exitCode : first.exitCode = second.exitCode) (alike : first.world.Alike second.world)
    (escaped : first.escaped = second.escaped) : SameEffects first second := by
  obtain ⟨output, errors, same⟩ := alike
  refine ⟨exitCode, ?_, ?_, ?_, ?_, escaped⟩
  all_goals rw [same]

theorem sameEffects_ofEnding {left right : World} (alike : left.Alike right) (usage : Usage)
    (ending : Ending) : SameEffects (ofEnding usage left ending) (ofEnding usage right ending) := by
  cases ending with
  | exit code => exact sameEffects_of_alike rfl alike rfl
  | fault fault =>
      obtain ⟨emission, escaped, same⟩ := ofFault_writes usage fault
      rw [ofEnding, ofEnding, same left, same right]
      exact sameEffects_of_alike rfl (alike_wrote alike emission emission) rfl

end Transcript

theorem matched_carryOut (embedding : Embedding) (invocation : Invocation) (format : Format)
    (world : World) :
    (embedding.carryOut invocation world).1 =
        (embedding.carryOut (invocation.withFormat format) world).1 ∧
      (embedding.carryOut invocation world).2.Alike
        (embedding.carryOut (invocation.withFormat format) world).2 :=
  matched_perform _ _ _ _ _ _ (.refl _)

theorem sameEffects_carryOut (embedding : Embedding) (invocation : Invocation) (format : Format)
    (world : World) :
    Transcript.SameEffects (.ofRun invocation.usage (embedding.carryOut invocation world))
      (.ofRun invocation.usage (embedding.carryOut (invocation.withFormat format) world)) := by
  obtain ⟨results, worlds⟩ := matched_carryOut embedding invocation format world
  cases left : embedding.carryOut invocation world with
  | mk result leftWorld =>
      cases right : embedding.carryOut (invocation.withFormat format) world with
      | mk other rightWorld =>
          rw [left, right] at results worlds
          cases results
          cases result with
          | ok value => exact Transcript.sameEffects_of_alike rfl worlds rfl
          | error ending => exact Transcript.sameEffects_ofEnding worlds invocation.usage ending

theorem installation_congr (embedding : Option Embedding)
    {environment other : List (String × String)} {first second : Settings}
    (key : environment.lookup "ROVER_API_KEY" = other.lookup "ROVER_API_KEY")
    (home : first.configHome = second.configHome) :
    installation embedding environment first = installation embedding other second := by
  unfold installation standAlone
  rw [key, home]

/-- The output format decides on renderings only. -/
theorem run_sameEffects_of_sameButFormat (embedding : Option Embedding)
    (environment other : List (String × String)) (words others : List String) (world : World)
    (key : environment.lookup "ROVER_API_KEY" = other.lookup "ROVER_API_KEY")
    (same : SameButFormat (readInvocation ⟨environment, world.files⟩ words)
      (readInvocation ⟨other, world.files⟩ others)) :
    Transcript.SameEffects (run embedding environment words world)
      (run embedding other others world) := by
  cases first : readInvocation ⟨environment, world.files⟩ words with
  | error halt =>
      cases second : readInvocation ⟨other, world.files⟩ others with
      | error _ =>
          rw [first, second] at same
          cases same
          rw [run_halted first, run_halted second]
          exact Transcript.sameEffects_of_alike rfl (.refl _) rfl
      | ok _ =>
          rw [first, second] at same
          cases same
  | ok invocation =>
      cases second : readInvocation ⟨other, world.files⟩ others with
      | error _ =>
          rw [first, second] at same
          cases same
      | ok another =>
          rw [first, second] at same
          obtain ⟨format, rfl⟩ := Invocation.exists_withFormat (Except.ok.inj same)
          have installed : installation embedding environment invocation.settings =
              installation embedding other (invocation.withFormat format).settings :=
            installation_congr embedding key rfl
          rw [run_carriedOut first, run_carriedOut second, installed]
          exact sameEffects_carryOut _ invocation format world

theorem run_sameEffects_previewedDeletion :
    SameButFormat (readInvocation {} ("--format" :: "plain" :: deletionWords))
        (readInvocation {} ("--format" :: "json" :: deletionWords)) ∧
      Transcript.SameEffects
        (run (deleting [.ok { supergraphUpdated := true }]) []
          ("--format" :: "plain" :: deletionWords) (answering "maybe\nYes\n"))
        (run (deleting [.ok { supergraphUpdated := true }]) []
          ("--format" :: "json" :: deletionWords) (answering "maybe\nYes\n")) ∧
      (run (deleting [.ok { supergraphUpdated := true }]) []
        ("--format" :: "json" :: deletionWords) (answering "maybe\nYes\n")).world.calls =
          [.client "default" "service:g:key",
            .registry (.deleteSubgraph { name := "g" } "s" true),
            .client "default" "service:g:key",
            .registry (.deleteSubgraph { name := "g" } "s" false)] := by
  have same := sameButFormat_front {} .plain .json deletionWords
  refine ⟨same, ?_, by decide +kernel⟩
  exact run_sameEffects_of_sameButFormat (deleting [.ok { supergraphUpdated := true }]) [] []
    ("--format" :: "plain" :: deletionWords) ("--format" :: "json" :: deletionWords)
    (answering "maybe\nYes\n") rfl same

end GraphConsole.CommandLine
