import GraphConsole.Proofs.CommandLine.Steps

/-! The ends of runs: exit codes, and what the command line still says. -/

namespace GraphConsole

def leavingStatus : List Json → Int
  | [] => 0
  | [.null] => 0
  | [operand] => operand.number?.getD 1
  | _ => 1

def Refusal.status (refusal : Refusal) : Int :=
  match refusal.manner with
  | .usage => 2
  | .value => 2
  | .plain => 1
  | .abort => 1

def Fault.status : Fault → Int
  | .failure _ => 1
  | .incident _ => 1
  | .refusal turned => turned.status
  | .interrupt request =>
      if request.isOneOf ["SystemExit"] then leavingStatus request.operands else 1

theorem Fault.status_of_reported {fault : Fault} {failure : Failure}
    (reported : fault.reported? = some failure) : fault.status = 1 := by
  cases fault with
  | failure known => rfl
  | incident unforeseen => rfl
  | refusal turned => cases reported
  | interrupt request => cases reported

end GraphConsole

namespace GraphConsole.CommandLine

open GraphConsole.Service

section Runs

variable {embedding : Option Embedding} {environment : List (String × String)}
variable {words : List String} {world : World}

@[simp] theorem installation_some (given : Embedding) (settings : Settings) :
    installation (some given) environment settings = given := rfl

theorem run_halted {halt : Halt}
    (read : readInvocation ⟨environment, world.files⟩ words = .error halt) :
    run embedding environment words world = .ofHalt world halt := by
  rw [run, read]

theorem run_carriedOut {invocation : Invocation}
    (read : readInvocation ⟨environment, world.files⟩ words = .ok invocation) :
    run embedding environment words world = .ofRun invocation.usage
      ((installation embedding environment invocation.settings).carryOut invocation world) := by
  rw [run, read]

end Runs

namespace Transcript

theorem failing_eq (code : Int) (world : World) (message : List Char) :
    failing code world message = ⟨code, wrote { errors := message } world, none⟩ := by
  rw [wrote_errors]
  rfl

theorem leaving_writes (operands : List Json) :
    ∃ emission, ∀ world, leaving world operands =
      ⟨leavingStatus operands, wrote emission world, none⟩ := by
  have silent : ∀ code, (∀ world, leaving world operands = ⟨code, world, none⟩) →
      ∃ emission, ∀ world, leaving world operands = ⟨code, wrote emission world, none⟩ := by
    intro code same
    exact ⟨{}, fun world => by rw [wrote_nothing, same]⟩
  have spoken : ∀ code words,
      (∀ world, leaving world operands =
        ⟨code, { world with output := world.output ++ words }, none⟩) →
      ∃ emission, ∀ world, leaving world operands = ⟨code, wrote emission world, none⟩ := by
    intro code words same
    exact ⟨{ output := words }, fun world => by rw [wrote_output, same]⟩
  match operands with
  | [] => exact silent 0 fun _ => rfl
  | [.null] => exact silent 0 fun _ => rfl
  | [.bool true] => exact silent 1 fun _ => rfl
  | [.bool false] => exact silent 0 fun _ => rfl
  | [.integer value] => exact silent value fun _ => rfl
  | [.decimal spelling] => exact spoken 1 _ fun _ => rfl
  | [.string value] => exact spoken 1 _ fun _ => rfl
  | [.array items] => exact spoken 1 _ fun _ => rfl
  | [.object fields] => exact spoken 1 _ fun _ => rfl
  | first :: second :: rest =>
      have status : leavingStatus (first :: second :: rest) = 1 := by
        cases first with
        | null => rfl
        | _ => rfl
      rw [status]
      refine spoken 1 (Wording.listed (first :: second :: rest) ++ ['\n']) fun world => ?_
      cases first with
      | bool value =>
          cases value with
          | false => rfl
          | true => rfl
      | _ => rfl

theorem ofFault_refusal (usage : Usage) (refusal : Refusal) :
    ∃ message, ∀ world, ofFault usage world (.refusal refusal) =
      ⟨refusal.status, wrote { errors := message } world, none⟩ := by
  obtain ⟨manner, name, message⟩ := refusal
  cases manner with
  | usage => exact ⟨_, fun world => failing_eq 2 world _⟩
  | value => exact ⟨_, fun world => failing_eq 2 world _⟩
  | plain => exact ⟨_, fun world => failing_eq 1 world _⟩
  | abort => exact ⟨_, fun world => failing_eq 1 world _⟩

theorem ofFault_writes (usage : Usage) (fault : Fault) :
    ∃ emission escaped, ∀ world, ofFault usage world fault =
      ⟨fault.status, wrote emission world, escaped⟩ := by
  cases fault with
  | failure known => exact ⟨{}, some _, fun world => by rw [wrote_nothing]; rfl⟩
  | incident unforeseen => exact ⟨{}, some _, fun world => by rw [wrote_nothing]; rfl⟩
  | refusal turned =>
      obtain ⟨message, same⟩ := ofFault_refusal usage turned
      exact ⟨_, none, same⟩
  | interrupt request =>
      by_cases leaves : request.isOneOf ["SystemExit"] = true
      · obtain ⟨emission, same⟩ := leaving_writes request.operands
        refine ⟨emission, none, fun world => ?_⟩
        simp only [ofFault, Fault.status, if_pos leaves]
        exact same world
      · simp only [ofFault, Fault.status, if_neg leaves]
        by_cases stops : request.isOneOf ["KeyboardInterrupt"] = true
        · simp only [if_pos stops]
          exact ⟨_, none, fun world => failing_eq 1 world _⟩
        · simp only [if_neg stops]
          exact ⟨{}, some request, fun world => by rw [wrote_nothing]⟩

/-- A run with nothing to tell but a fault leaves with the status of that fault. -/
theorem ofEnding_endingOf (dispatcher : Dispatcher) (usage : Usage) (fault : Fault) :
    ∃ emission escaped, ∀ world,
      ofEnding usage (wrote (Step.toldOf dispatcher fault) world) (Step.endingOf fault) =
        ⟨fault.status, wrote emission world, escaped⟩ := by
  cases reported : fault.reported? with
  | some failure =>
      refine ⟨dispatcher.shown (.failure failure), none, fun world => ?_⟩
      rw [Step.endingOf, Step.toldOf, reported, Fault.status_of_reported reported]
      rfl
  | none =>
      obtain ⟨emission, escaped, same⟩ := ofFault_writes usage fault
      refine ⟨emission, escaped, fun world => ?_⟩
      rw [Step.endingOf, Step.toldOf, reported, Option.elim_none, wrote_nothing]
      exact same world

theorem ofHalt_writes (halt : Halt) :
    ∃ code emission escaped, ∀ world, ofHalt world halt =
      ⟨code, wrote emission world, escaped⟩ := by
  cases halt with
  | misuse usage message =>
      cases usage with
      | some usage => exact ⟨2, _, none, fun world => failing_eq 2 world _⟩
      | none => exact ⟨2, _, none, fun world => failing_eq 2 world _⟩
  | tell text => exact ⟨0, { output := text.toList }, none, fun world => by rw [wrote_output]; rfl⟩
  | escape incident => exact ⟨1, {}, some incident, fun world => by rw [wrote_nothing]; rfl⟩

end Transcript

theorem ofRun_conclude_writes (dispatcher : Dispatcher) (action : Action Output) (usage : Usage)
    (world : World) :
    ∃ code emission escaped,
      Transcript.ofRun usage (runIn (Step.conclude dispatcher action) world) =
        ⟨code, wrote emission (runIn action world).2, escaped⟩ := by
  cases run : runIn action world with
  | mk result after =>
      cases result with
      | ok output =>
          rw [Step.runIn_conclude_ok run]
          exact ⟨_, _, none, rfl⟩
      | error fault =>
          rw [Step.runIn_conclude_error run]
          obtain ⟨emission, escaped, same⟩ := Transcript.ofEnding_endingOf dispatcher usage fault
          exact ⟨_, emission, escaped, same after⟩

theorem ofRun_writes (usage : Usage) (result : Except Ending Unit) (world : World) :
    ∃ emission, (Transcript.ofRun usage (result, world)).world = wrote emission world := by
  cases result with
  | ok value => exact ⟨{}, (wrote_nothing world).symm⟩
  | error ending =>
      cases ending with
      | exit code => exact ⟨{}, (wrote_nothing world).symm⟩
      | fault fault =>
          obtain ⟨emission, escaped, same⟩ := Transcript.ofFault_writes usage fault
          exact ⟨emission, congrArg Transcript.world (same world)⟩

/-! Deletions on the command line, by an installation with a key whose registry only reacts to
them. -/

def deleting (script : Script Registry.SubgraphDeletion) : Embedding where
  application :=
    { store := ⟨.ofText "config"⟩
      environmentKey := some "service:g:key"
      client := some (Client.silent.withScript .deleteSubgraph script) }

def deletionWords : List String :=
  ["subgraph", "delete", "g", "--name", "s"]

def answering (input : String) : World where
  input := input.toList

end GraphConsole.CommandLine
