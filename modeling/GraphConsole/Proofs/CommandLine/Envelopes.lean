import GraphConsole.Proofs.Command.Calls
import GraphConsole.Proofs.CommandLine.Endings
import GraphConsole.Proofs.Outcome.Agreement
import GraphConsole.Proofs.Outcome.EnvelopeText

/-! Runs in the JSON format. Each writes one envelope to standard output, also where a preview comes
before a deletion, and nothing if the command line itself turns the command down. -/

namespace GraphConsole.CommandLine

open GraphConsole.Command
open GraphConsole.Service

def envelopeLine (envelope : Envelope) : List Char :=
  envelope.toText.toList ++ ['\n']

theorem shown_json {dispatcher : Dispatcher} (json : dispatcher.format = .json)
    {outcome : Outcome} {envelope : Envelope} (rendered : outcome.envelope = .ok envelope)
    (whole : envelope.Whole) :
    dispatcher.shown outcome = { output := envelopeLine envelope } :=
  Dispatcher.shown_json json rendered whole

/-- How a step comes out in the JSON format: it goes on in silence, ends the run with the one
envelope and its exit code, or leaves a fault to the command line, again in silence. -/
def ComesOut (world : World) : Except Ending α × World → Prop
  | (.ok _, after) => after.output = world.output
  | (.error (.exit code), after) =>
      ∃ envelope, after.output = world.output ++ envelopeLine envelope ∧
        code = if envelope.success then 0 else 1
  | (.error (.fault fault), after) => after.output = world.output ∧ fault.reported? = none

/-- A fault is told in one envelope too, unless the command line is to deal with it. -/
theorem comesOut_told {dispatcher : Dispatcher} (json : dispatcher.format = .json) (fault : Fault)
    {world after : World} (silent : after.output = world.output) :
    ComesOut world ((.error (Step.endingOf fault), wrote (Step.toldOf dispatcher fault) after) :
      Except Ending α × World) := by
  cases reported : fault.reported? with
  | some failure =>
      rw [Step.endingOf, Step.toldOf, reported, Option.elim_some,
        shown_json json rfl failure.whole_envelope]
      refine ⟨failure.envelope, ?_, rfl⟩
      rw [wrote_output, ← silent]
  | none =>
      rw [Step.endingOf, Step.toldOf, reported, Option.elim_none, wrote_nothing]
      exact ⟨silent, reported⟩

structure OneEnvelope (step : Step α) : Prop where
  comesOut : ∀ world, ComesOut world (runIn step world)

namespace OneEnvelope

theorem pure (value : α) : OneEnvelope (pure value : Step α) :=
  ⟨fun _ => rfl⟩

theorem bind {step : Step α} {next : α → Step β} (first : OneEnvelope step)
    (rest : ∀ value, OneEnvelope (next value)) : OneEnvelope (step >>= next) := by
  constructor
  intro world
  have early := first.comesOut world
  cases run : runIn step world with
  | mk result after =>
      rw [run] at early
      cases result with
      | ok value =>
          rw [runIn_bind_ok run]
          have silent : after.output = world.output := early
          have late := (rest value).comesOut after
          unfold ComesOut at late ⊢
          rw [← silent]
          exact late
      | error ending =>
          rw [runIn_bind_error run]
          cases ending with
          | exit code => exact early
          | fault fault => exact early

theorem fail {fault : Fault} (unreported : fault.reported? = none) :
    OneEnvelope (Step.fail fault : Step α) :=
  ⟨fun _ => ⟨rfl, unreported⟩⟩

theorem writeErrors (message : List Char) :
    OneEnvelope (modify (wrote { errors := message }) : Step Unit) := by
  constructor
  intro world
  rw [runIn_modify, wrote_errors]
  exact rfl

theorem ask (question : List (List Char) → Asked α) : OneEnvelope (Step.ask question) := by
  constructor
  intro world
  obtain ⟨written, rest, asked⟩ := Step.runIn_ask question world
  rw [asked, wrote_errors]
  exact rfl

variable {dispatcher : Dispatcher} {action : Action Output}

theorem conclude (json : dispatcher.format = .json) (discreet : Discreet action) :
    OneEnvelope (Step.conclude dispatcher action) := by
  constructor
  intro world
  have silent := discreet.silent world
  cases run : runIn action world with
  | mk result after =>
      rw [run] at silent
      cases result with
      | ok output =>
          rw [Step.runIn_conclude_ok run, shown_json json rfl output.whole_envelope]
          refine ⟨output.envelope, ?_, rfl⟩
          rw [wrote_output, ← silent]
      | error fault =>
          rw [Step.runIn_conclude_error run]
          exact comesOut_told json fault silent

theorem attempt (json : dispatcher.format = .json) (discreet : Discreet action) :
    OneEnvelope (Step.attempt dispatcher action (dispatcher.format != .json)) := by
  constructor
  intro world
  have silent := discreet.silent world
  have held : (dispatcher.format != .json) = false := by simp [json]
  rw [held]
  cases run : runIn action world with
  | mk result after =>
      rw [run] at silent
      cases result with
      | ok output =>
          rw [Step.runIn_attempt_ok run, if_neg (by decide), wrote_nothing]
          exact silent
      | error fault =>
          rw [Step.runIn_attempt_error run]
          exact comesOut_told json fault silent

end OneEnvelope

section Tasks

variable {dispatcher : Dispatcher} (json : dispatcher.format = .json)

include json

theorem storeProfile_oneEnvelope (store : Profile.Store) (name : String) :
    OneEnvelope (storeProfile dispatcher store name) := by
  refine .bind (.ask askKey) fun answer => ?_
  cases answer with
  | some key =>
      have saved : Composed (fun _ => True) (saveProfile store name (String.ofList key)) :=
        composed_saveProfile store name _
      exact .conclude json saved.discreet
  | none => exact .bind (.writeErrors _) fun _ => .fail rfl

theorem askConsent_oneEnvelope (name : String) : OneEnvelope (askConsent dispatcher name) := by
  refine .bind (.ask askConfirmation) fun answer => ?_
  cases answer with
  | some consent =>
      cases consent with
      | true => exact .pure ()
      | false =>
          have cancel : Composed (fun _ => True) (cancelled name) := composed_cancelled name
          exact .conclude json cancel.discreet
  | none => exact .fail rfl

theorem deleteSubgraph_oneEnvelope (application : Application)
    (profile reference name : String) (confirmed : Bool) :
    OneEnvelope (deleteSubgraph dispatcher application profile reference name confirmed) := by
  have deletion := discreet_deletionAction application profile reference name
  cases confirmed with
  | true => exact .conclude json (deletion false)
  | false =>
      rw [deleteSubgraph_unconfirmed]
      refine .bind (.attempt json (deletion true)) fun _ => ?_
      exact .bind (askConsent_oneEnvelope json name) fun _ => .conclude json (deletion false)

theorem perform_oneEnvelope (application : Application) (task : Task) :
    OneEnvelope (perform dispatcher application task) := by
  rcases perform_cases (fun _ => True) application task (fun _ _ => trivial) with
    ⟨action, composed, concluded⟩ | ⟨name, rfl⟩ | ⟨profile, reference, name, confirmed, rfl⟩
  · rw [concluded]
    exact .conclude json composed.discreet
  · exact storeProfile_oneEnvelope json application.store name
  · exact deleteSubgraph_oneEnvelope json application profile reference name confirmed

end Tasks

/-! Whole runs. -/

/-- A run that wrote one envelope to standard output and ended with the exit code for it. -/
def WroteEnvelope (world : World) (transcript : Transcript) : Prop :=
  ∃ envelope : Envelope,
    transcript.world.output = world.output ++ envelopeLine envelope ∧
    envelope.toJson.at? ["json_version"] = some (.string "1") ∧
    transcript.escaped = none ∧
    (transcript.exitCode = 0 ↔
      envelope.toJson.at? ["data", "success"] = some (.bool true)) ∧
    (transcript.exitCode ≠ 0 → transcript.exitCode = 1)

theorem wroteEnvelope_of_exit {world after : World} {envelope : Envelope}
    (written : after.output = world.output ++ envelopeLine envelope) :
    WroteEnvelope world ⟨(if envelope.success then 0 else 1 : Nat), after, none⟩ := by
  refine ⟨envelope, written, rfl, rfl, ?_, ?_⟩
  · rw [envelope.at?_success]
    cases envelope.success with
    | true => simp
    | false => simp
  · cases envelope.success with
    | true => simp
    | false => simp

theorem carryOut_comesOut (embedding : Embedding) (invocation : Invocation) (world : World)
    (json : invocation.settings.format = .json) :
    ComesOut world (embedding.carryOut invocation world) :=
  (perform_oneEnvelope json embedding.application invocation.task).comesOut
    (embedding.prepare invocation.settings world)

theorem carryOut_ends (embedding : Embedding) (invocation : Invocation) (world : World) :
    ∃ ending after, embedding.carryOut invocation world = (.error ending, after) := by
  obtain ⟨ending, ended⟩ := Ends.perform (embedding.dispatcher invocation.settings)
    embedding.application invocation.task (embedding.prepare invocation.settings world)
  exact ⟨ending, _, Prod.ext ended rfl⟩

/-- In the JSON format, whatever gets past the reading of the command line writes one envelope,
unless the command line itself turns it down or someone wants it to stop. -/
theorem run_writes_one_envelope (embedding : Option Embedding)
    (environment : List (String × String)) (words : List String) (world : World) :
    (∀ usage message,
      readInvocation ⟨environment, world.files⟩ words = .error (.misuse usage message) →
        (run embedding environment words world).world.output = world.output) ∧
    ∀ invocation,
      readInvocation ⟨environment, world.files⟩ words = .ok invocation →
      invocation.settings.format = .json →
      let result := ((installation embedding environment invocation.settings).carryOut
        invocation world).1
      (∀ refusal, result = .error (.fault (.refusal refusal)) →
        (run embedding environment words world).world.output = world.output) ∧
      ((∀ refusal, result ≠ .error (.fault (.refusal refusal))) →
        (∀ request, result ≠ .error (.fault (.interrupt request))) →
          WroteEnvelope world (run embedding environment words world)) := by
  constructor
  · intro usage message read
    rw [run_halted read]
    cases usage with
    | none => rfl
    | some usage => rfl
  · intro invocation read json
    rw [run_carriedOut read]
    have out := carryOut_comesOut (installation embedding environment invocation.settings)
      invocation world json
    obtain ⟨ending, after, ended⟩ := carryOut_ends
      (installation embedding environment invocation.settings) invocation world
    rw [ended] at out ⊢
    dsimp only
    cases ending with
    | exit code =>
        obtain ⟨envelope, written, rfl⟩ := out
        exact ⟨nofun, fun _ _ => wroteEnvelope_of_exit written⟩
    | fault fault =>
        obtain ⟨silent, unreported⟩ := out
        cases fault with
        | failure known => cases unreported
        | incident unforeseen => cases unreported
        | refusal turned =>
            obtain ⟨message, same⟩ := Transcript.ofFault_refusal invocation.usage turned
            refine ⟨fun _ _ => ?_, fun unturned _ => absurd rfl (unturned turned)⟩
            rw [Transcript.ofRun, Transcript.ofEnding, same after, wrote_errors]
            exact silent
        | interrupt request =>
            exact ⟨nofun, fun _ uninterrupted => absurd rfl (uninterrupted request)⟩

def jsonDeletion : Invocation where
  settings := { format := .json, configHome := .ofText "home/.config/rover" }
  usage := ⟨["subgraph", "delete"], ["GRAPH_REF"]⟩
  task := .deleteSubgraph "default" "g" "s" false

theorem run_writes_one_envelope_declined :
    readInvocation {} ("--format" :: "json" :: deletionWords) = .ok jsonDeletion ∧
      WroteEnvelope (answering "no\n")
        (run (deleting [.ok { supergraphUpdated := true }]) []
          ("--format" :: "json" :: deletionWords) (answering "no\n")) := by
  have read : readInvocation {} ("--format" :: "json" :: deletionWords) = .ok jsonDeletion := rfl
  have exit : ((deleting [.ok { supergraphUpdated := true }]).carryOut jsonDeletion
      (answering "no\n")).1 = .error (.exit 0) := by rfl
  have written := (run_writes_one_envelope (deleting [.ok { supergraphUpdated := true }]) []
    ("--format" :: "json" :: deletionWords) (answering "no\n")).2 jsonDeletion read rfl
  refine ⟨read, written.2 ?_ ?_⟩
  · intro refusal same
    cases exit.symm.trans same
  · intro request same
    cases exit.symm.trans same

def nulWords : List String :=
  ["--format", "json", "graph", "publish", "g", "--schema", "a\x00b"]

/-- A word that cannot be looked up as a path ends the run without an envelope, although its format
has been resolved and no complaint about it is made. -/
theorem nulWords_write_no_envelope :
    (∃ bound operands form rest, readGlobals {} nulWords = .ok (bound, operands) ∧
      (settingsOf [] bound).format = .json ∧ findCommand {} operands = .ok (form, rest) ∧
      form.words = ["graph", "publish"]) ∧
    (∃ incident, readInvocation {} nulWords = .error (.escape incident)) ∧
    (run none [] nulWords {}).world.output = [] ∧
    ¬ WroteEnvelope {} (run none [] nulWords {}) := by
  have silent : (run none [] nulWords {}).world.output = [] := rfl
  refine ⟨⟨_, _, _, _, rfl, rfl, rfl, rfl⟩, ⟨_, rfl⟩, silent, ?_⟩
  rintro ⟨envelope, written, _⟩
  rw [silent] at written
  simp [envelopeLine] at written

end GraphConsole.CommandLine
