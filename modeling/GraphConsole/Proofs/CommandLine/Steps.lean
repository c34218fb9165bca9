import GraphConsole.CommandLine.Run
import GraphConsole.Proofs.Console.Showing
import GraphConsole.Proofs.Service.Conduct

/-! What the steps of a run come to in a world. -/

namespace GraphConsole.CommandLine

open GraphConsole.Service
open GraphConsole.Text

@[simp] theorem wrote_nothing (world : World) : wrote {} world = world := by
  simp [wrote]

theorem wrote_errors (message : List Char) (world : World) :
    wrote { errors := message } world = { world with errors := world.errors ++ message } := by
  simp [wrote]

theorem wrote_output (words : List Char) (world : World) :
    wrote { output := words } world = { world with output := world.output ++ words } := by
  simp [wrote]

namespace Step

variable {dispatcher : Dispatcher} {action : Action Output} {emitSuccess : Bool}
variable {world after : World} {output : Output} {fault : Fault} {failure : Failure}

@[simp] theorem runIn_finish (code : Nat) :
    runIn (finish code : Step α) world = (.error (.exit code), world) := rfl

@[simp] theorem runIn_fail (fault : Fault) :
    runIn (fail fault : Step α) world = (.error (.fault fault), world) := rfl

theorem runIn_present (run : runIn action world = (result, after)) :
    runIn (present dispatcher action emitSuccess) world =
      match dispatcher.run (result.map Answer.known) emitSuccess with
      | .error fault => (.error (.fault fault), after)
      | .ok (code, emission) => (.ok code, wrote emission after) := by
  unfold runIn at run ⊢
  cases shown : dispatcher.run (result.map Answer.known) emitSuccess with
  | error fault =>
      rw [present, ExceptT.run_mk, StateT.run, run]
      simp only [shown]
  | ok answer =>
      rw [present, ExceptT.run_mk, StateT.run, run]
      simp only [shown]

theorem runIn_present_ok (run : runIn action world = (.ok output, after)) :
    runIn (present dispatcher action emitSuccess) world =
      (.ok 0, wrote
        (if emitSuccess then dispatcher.shown (.success (.known output)) else {}) after) := by
  rw [runIn_present run, Except.map, dispatcher.run_known]

theorem runIn_present_reported (run : runIn action world = (.error fault, after))
    (reported : fault.reported? = some failure) :
    runIn (present dispatcher action emitSuccess) world =
      (.ok 1, wrote (dispatcher.shown (.failure failure)) after) := by
  rw [runIn_present run, Except.map, dispatcher.run_reported reported]

theorem runIn_present_unreported (run : runIn action world = (.error fault, after))
    (unreported : fault.reported? = none) :
    runIn (present dispatcher action emitSuccess) world = (.error (.fault fault), after) := by
  rw [runIn_present run, Except.map, dispatcher.run_unreported unreported]

theorem runIn_conclude_ok (run : runIn action world = (.ok output, after)) :
    runIn (conclude dispatcher action) world =
      (.error (.exit 0), wrote (dispatcher.shown (.success (.known output))) after) :=
  runIn_bind_ok (runIn_present_ok run)

theorem runIn_attempt_ok (run : runIn action world = (.ok output, after)) :
    runIn (attempt dispatcher action emitSuccess) world =
      (.ok (), wrote
        (if emitSuccess then dispatcher.shown (.success (.known output)) else {}) after) :=
  runIn_bind_ok (runIn_present_ok run)

/-- Whatever it tells of an action, a step only writes to the streams. -/
theorem runIn_present_world (dispatcher : Dispatcher) (action : Action Output)
    (emitSuccess : Bool) (world : World) :
    ∃ emission, (runIn (present dispatcher action emitSuccess) world).2 =
      wrote emission (runIn action world).2 := by
  cases run : runIn action world with
  | mk result after =>
      rw [runIn_present run]
      cases dispatcher.run (result.map Answer.known) emitSuccess with
      | error fault => exact ⟨{}, (wrote_nothing after).symm⟩
      | ok shown => exact ⟨shown.2, rfl⟩

/-- How a run ends that has nothing to tell but a fault. -/
def endingOf (fault : Fault) : Ending :=
  if fault.reported?.isSome then .exit 1 else .fault fault

def toldOf (dispatcher : Dispatcher) (fault : Fault) : Emission :=
  fault.reported?.elim {} fun failure => dispatcher.shown (.failure failure)

theorem runIn_told {next : Nat → Step α} (leaves : next 1 = finish 1)
    (run : runIn action world = (.error fault, after)) :
    runIn (present dispatcher action emitSuccess >>= next) world =
      (.error (endingOf fault), wrote (toldOf dispatcher fault) after) := by
  cases reported : fault.reported? with
  | some failure =>
      rw [runIn_bind_ok (runIn_present_reported run reported), leaves, endingOf, toldOf, reported]
      rfl
  | none =>
      rw [runIn_bind_error (runIn_present_unreported run reported), endingOf, toldOf, reported,
        Option.elim_none, wrote_nothing]
      rfl

theorem runIn_conclude_error (run : runIn action world = (.error fault, after)) :
    runIn (conclude dispatcher action) world =
      (.error (endingOf fault), wrote (toldOf dispatcher fault) after) :=
  runIn_told rfl run

theorem runIn_attempt_error (run : runIn action world = (.error fault, after)) :
    runIn (attempt dispatcher action emitSuccess) world =
      (.error (endingOf fault), wrote (toldOf dispatcher fault) after) :=
  runIn_told rfl run

theorem runIn_ask (question : List (List Char) → Asked α) (world : World) :
    ∃ written rest, runIn (ask question) world =
      (.ok (question (inputLines world.input)).answer,
        wrote { errors := written } { world with input := rest }) :=
  ⟨_, _, rfl⟩

end Step

theorem runIn_cancelled (name : String) (world : World) :
    ∃ record, runIn (cancelled name) world =
      (.ok .emptySuccess, { world with errors := world.errors ++ record }) := by
  obtain ⟨record, run⟩ := runIn_info ("Deletion of subgraph " ++ name ++ " was cancelled") world
  exact ⟨record, runIn_bind_ok run⟩

/-! A confirmed deletion is made at once; without a confirmation it comes behind a preview and a
question. -/

theorem deleteSubgraph_confirmed (dispatcher : Dispatcher) (application : Application)
    (profile reference name : String) :
    deleteSubgraph dispatcher application profile reference name true =
      Step.conclude dispatcher (deletionAction application profile reference name false) := rfl

theorem deleteSubgraph_unconfirmed (dispatcher : Dispatcher) (application : Application)
    (profile reference name : String) :
    deleteSubgraph dispatcher application profile reference name false = (do
      Step.attempt dispatcher (deletionAction application profile reference name true)
        (dispatcher.format != .json)
      askConsent dispatcher name
      Step.conclude dispatcher (deletionAction application profile reference name false)) := rfl

/-! Two runs, with whatever relation between their worlds: they stay together as long as what they
show and ask keeps them together. -/

section Two

variable {related : World → World → Prop} {first second : Dispatcher}
variable {action other : Action Output}

theorem related_conclude
    (presented : Related related (Step.present first action true)
      (Step.present second other true)) :
    Related related (Step.conclude first action) (Step.conclude second other) :=
  .bind presented fun _ => .throw _

theorem related_attempt {early late : Bool}
    (presented : Related related (Step.present first action early)
      (Step.present second other late)) :
    Related related (Step.attempt first action early) (Step.attempt second other late) := by
  refine .bind presented fun code => ?_
  cases code with
  | zero => exact .pure ()
  | succ code => exact .throw _

theorem related_storeProfile {store : Profile.Store} {name : String}
    (asked : Related related (Step.ask askKey) (Step.ask askKey))
    (stored : ∀ key, Related related
      (Step.conclude first (Command.saveProfile store name key))
      (Step.conclude second (Command.saveProfile store name key)))
    (unanswered : Related related (modify (wrote { errors := ['\n'] }) : Step Unit)
      (modify (wrote { errors := ['\n'] }))) :
    Related related (storeProfile first store name) (storeProfile second store name) := by
  refine .bind asked fun answer => ?_
  cases answer with
  | some key => exact stored _
  | none => exact .bind unanswered fun _ => .throw _

theorem related_askConsent {name : String}
    (asked : Related related (Step.ask askConfirmation) (Step.ask askConfirmation))
    (declined : Related related (Step.conclude first (cancelled name))
      (Step.conclude second (cancelled name))) :
    Related related (askConsent first name) (askConsent second name) := by
  refine .bind asked fun answer => ?_
  cases answer with
  | some consent =>
      cases consent with
      | true => exact .pure ()
      | false => exact declined
  | none => exact .throw _

theorem related_deleteSubgraph {application installed : Application}
    {profile reference name : String}
    (previewed : Related related
      (Step.present first (deletionAction application profile reference name true)
        (first.format != .json))
      (Step.present second (deletionAction installed profile reference name true)
        (second.format != .json)))
    (consent : Related related (askConsent first name) (askConsent second name))
    (concluded : Related related
      (Step.conclude first (deletionAction application profile reference name false))
      (Step.conclude second (deletionAction installed profile reference name false)))
    (confirmed : Bool) :
    Related related (deleteSubgraph first application profile reference name confirmed)
      (deleteSubgraph second installed profile reference name confirmed) := by
  cases confirmed with
  | true =>
      rw [deleteSubgraph_confirmed, deleteSubgraph_confirmed]
      exact concluded
  | false =>
      rw [deleteSubgraph_unconfirmed, deleteSubgraph_unconfirmed]
      refine .bind (related_attempt previewed) fun _ => ?_
      exact .bind consent fun _ => concluded

end Two

/-! A step that tells of an action leads where the action does, as far as it makes no difference
what is on the streams. -/

section Led

variable {related : World → World → Prop} {action : Action Output}
variable (writes : ∀ {before after : World} emission,
  related before after → related before (wrote emission after))

include writes

theorem leads_present (dispatcher : Dispatcher) (emitSuccess : Bool) (led : Leads related action) :
    Leads related (Step.present dispatcher action emitSuccess) := by
  intro world
  obtain ⟨emission, same⟩ := Step.runIn_present_world dispatcher action emitSuccess world
  rw [same]
  exact writes emission (led world)

theorem leads_conclude (dispatcher : Dispatcher) (led : Leads related action) :
    Leads related (Step.conclude dispatcher action) := by
  intro world
  rw [Step.conclude, runIn_bind_world fun _ _ => rfl]
  exact leads_present writes dispatcher true led world

theorem leads_attempt (dispatcher : Dispatcher) (emitSuccess : Bool) (led : Leads related action) :
    Leads related (Step.attempt dispatcher action emitSuccess) := by
  intro world
  have stays : ∀ code world,
      (runIn (if code != 0 then Step.finish code else pure ()) world).2 = world := by
    intro code world
    cases code with
    | zero => rfl
    | succ code => rfl
  rw [Step.attempt, runIn_bind_world stays]
  exact leads_present writes dispatcher emitSuccess led world

end Led

section Calls

variable {permitted : Call → Prop} {action : Action Output}

theorem calls_conclude (dispatcher : Dispatcher) (allowed : Leads (Calls permitted) action) :
    Leads (Calls permitted) (Step.conclude dispatcher action) :=
  leads_conclude (fun _ made => made) dispatcher allowed

theorem calls_ask (question : List (List Char) → Asked α) :
    Leads (Calls permitted) (Step.ask question) := by
  intro world
  obtain ⟨written, rest, asked⟩ := Step.runIn_ask question world
  exact .none (by rw [asked]; rfl)

end Calls

def Ends (step : Step α) : Prop :=
  ∀ world, ∃ ending, (runIn step world).1 = .error ending

namespace Ends

theorem throw (ending : Ending) : Ends (throw ending : Step α) :=
  fun _ => ⟨ending, rfl⟩

theorem bind (step : Step α) {next : α → Step β} (ends : ∀ value, Ends (next value)) :
    Ends (step >>= next) := by
  intro world
  cases run : runIn step world with
  | mk result after =>
      cases result with
      | ok value =>
          rw [runIn_bind_ok run]
          exact ends value after
      | error ending =>
          rw [runIn_bind_error run]
          exact ⟨ending, rfl⟩

theorem conclude (dispatcher : Dispatcher) (action : Action Output) :
    Ends (Step.conclude dispatcher action) :=
  .bind _ fun _ => .throw _

theorem perform (dispatcher : Dispatcher) (application : Application) (task : Task) :
    Ends (perform dispatcher application task) := by
  cases task with
  | storeProfile name =>
      refine .bind _ fun answer => ?_
      cases answer with
      | some key => exact .conclude dispatcher _
      | none => exact .bind _ fun _ => .throw _
  | deleteSubgraph profile reference name confirmed =>
      cases confirmed with
      | true => exact .conclude dispatcher _
      | false => exact .bind _ fun _ => .bind _ fun _ => .conclude dispatcher _
  | _ => exact .conclude dispatcher _

end Ends

end GraphConsole.CommandLine
