import GraphConsole.Proofs.CommandLine.Deletion

/-! Openings: what stands in front of each request to the registry. It takes a profile that can be
loaded, a client that can be opened with it and a reference that can be read, one after the other.
Where one of them is missing nothing else is done; where all are there, the calls are for that
profile and about that graph. -/

namespace GraphConsole.Service.Application

/-- The profile of a name, by what an installation has in its environment and in files. -/
def profile (application : Application) (files : Files.Tree) (name : String) :
    Except Fault Profile :=
  application.store.load application.environmentKey files name

end GraphConsole.Service.Application

namespace GraphConsole.CommandLine

open GraphConsole.Command
open GraphConsole.Files
open GraphConsole.Registry
open GraphConsole.Service
open GraphConsole.Text

/-- The profile and the reference that a task comes with if it is one for the registry. -/
def Task.registry? : Task → Option (String × String)
  | .onGraph profile reference _ => some (profile, reference)
  | .deleteSubgraph profile reference _ _ => some (profile, reference)
  | _ => none

/-! One opening. -/

section Opening

variable {application : Application} {profile reference : String} {world after : World}
variable {usual : Client} {found : Profile} {fault : Fault}

theorem runIn_openGraph_lacking (lacking : application.client = none) :
    runIn (openGraph application profile reference) world =
      (.error (.failure (Application.lacking "registry client")), world) := by
  apply runIn_bind_error
  rw [Application.openClient, lacking]
  rfl

theorem runIn_openGraph_unloaded (installed : application.client = some usual)
    (failed : application.profile world.files profile = .error fault) :
    runIn (openGraph application profile reference) world = (.error fault, world) := by
  apply runIn_bind_error
  rw [Application.openClient, installed]
  apply runIn_bind_error
  rw [runIn_askFiles, ← failed]
  rfl

theorem runIn_openClient_loaded (installed : application.client = some usual)
    (loaded : application.profile world.files profile = .ok found) :
    runIn (application.openClient profile) world =
      runIn (askFactory usual found.name found.apiKey) world := by
  rw [Application.openClient, installed]
  apply runIn_bind_ok
  rw [runIn_askFiles, ← loaded]
  rfl

/-- A world in which a client is asked for. -/
def asking (found : Profile) (world : World) : World :=
  { world with
    calls := world.calls ++ [.client found.name found.apiKey]
    openings := world.openings.advance }

theorem runIn_openGraph_unopened (installed : application.client = some usual)
    (loaded : application.profile world.files profile = .ok found)
    (failed : world.opening usual = .error fault) :
    runIn (openGraph application profile reference) world = (.error fault, asking found world) := by
  apply runIn_bind_error
  rw [runIn_openClient_loaded installed loaded, runIn_askFactory, failed]
  rfl

theorem runIn_openGraph_opened {client : Client} (installed : application.client = some usual)
    (loaded : application.profile world.files profile = .ok found)
    (opened : world.opening usual = .ok client) :
    runIn (openGraph application profile reference) world =
      ((GraphRef.parse reference).mapError Fault.failure,
        { asking found world with client := client }) := by
  have run : runIn (application.openClient profile) world =
      (.ok (), { asking found world with client := client }) := by
    rw [runIn_openClient_loaded installed loaded, runIn_askFactory, opened]
    rfl
  exact (runIn_bind_ok run).trans (runIn_ofExcept _ _)

end Opening

/-! Runs that are turned away. -/

section Refused

variable (dispatcher : Dispatcher) {application : Application} {profile reference : String}
variable {world after : World} {fault : Fault}
variable (refused : runIn (openGraph application profile reference) world = (.error fault, after))

include refused

/-- A task for the registry that is refused has nothing to tell but the fault, whichever way a
deletion is to be made. -/
theorem runIn_perform_refused {task : Task} (wanted : task.registry? = some (profile, reference)) :
    runIn (perform dispatcher application task) world =
      (.error (Step.endingOf fault), wrote (Step.toldOf dispatcher fault) after) := by
  have run : ∀ next : GraphRef → Action Output,
      runIn (openGraph application profile reference >>= next) world = (.error fault, after) :=
    fun _ => runIn_bind_error refused
  cases task with
  | onGraph _ _ task =>
      cases wanted
      exact Step.runIn_conclude_error (run _)
  | deleteSubgraph _ _ name confirmed =>
      cases wanted
      cases confirmed with
      | true => exact Step.runIn_conclude_error (run _)
      | false => exact runIn_bind_error (Step.runIn_attempt_error (run _))
  | _ => cases wanted

end Refused

/-! Runs that are admitted. -/

/-- The calls that a profile and a reference entitle to. -/
def Granted (found : Profile) (reference : String) : Call → Prop
  | .client name apiKey => name = found.name ∧ apiKey = found.apiKey
  | .registry request => GraphRef.parse? reference = some request.graph
  | _ => False

theorem parse_eq_ok {reference : String} {graph : GraphRef}
    (read : (GraphRef.parse reference).mapError Fault.failure = .ok graph) :
    GraphRef.parse? reference = some graph := by
  unfold GraphRef.parse at read
  split at read
  · next found =>
    cases read
    exact found
  · cases read

section Admitted

variable {application : Application} {profile reference : String} {found : Profile}
variable {usual : Client}

/-- An opening makes its one call with the profile that was loaded, and gives the graph that the
reference stands for. -/
theorem runIn_openGraph_loaded (installed : application.client = some usual) {world : World}
    (loaded : application.profile world.files profile = .ok found) :
    ∃ result after, runIn (openGraph application profile reference) world = (result, after) ∧
      Calls (Granted found reference) world after ∧
      ∀ graph, result = .ok graph → GraphRef.parse? reference = some graph := by
  cases opened : world.opening usual with
  | error fault =>
      refine ⟨_, _, runIn_openGraph_unopened installed loaded opened, ?_, nofun⟩
      exact .one rfl ⟨rfl, rfl⟩
  | ok client =>
      refine ⟨_, _, runIn_openGraph_opened installed loaded opened, ?_, ?_⟩
      · exact .one rfl ⟨rfl, rfl⟩
      · exact fun _ => parse_eq_ok

theorem calls_opened (installed : application.client = some usual) {world : World}
    (loaded : application.profile world.files profile = .ok found)
    {next : GraphRef → Action Output}
    (rest : ∀ graph, GraphRef.parse? reference = some graph →
      Leads (Calls (Granted found reference)) (next graph)) :
    Calls (Granted found reference) world
      (runIn (openGraph application profile reference >>= next) world).2 := by
  obtain ⟨result, after, run, opening, parsed⟩ :
      ∃ result after, runIn (openGraph application profile reference) world = (result, after) ∧ _ :=
    runIn_openGraph_loaded installed loaded
  cases result with
  | error fault =>
      rw [runIn_bind_error run]
      exact opening
  | ok graph =>
      rw [runIn_bind_ok run]
      exact opening.trans (rest graph (parsed graph rfl) after)

end Admitted

/-- With certain files, a step leaves them alone and makes permitted calls only. -/
def Guarded (files : Tree) (permitted : Call → Prop) (before after : World) : Prop :=
  before.files = files → after.files = files ∧ Calls permitted before after

section Guarded

variable {files : Tree} {permitted : Call → Prop}

theorem Guarded.trans {first second third : World} (one : Guarded files permitted first second)
    (two : Guarded files permitted second third) : Guarded files permitted first third := by
  intro same
  obtain ⟨kept, early⟩ := one same
  obtain ⟨again, late⟩ := two kept
  exact ⟨again, early.trans late⟩

theorem Guarded.calm {before after : World} (kept : after.files = before.files)
    (uncalled : after.calls = before.calls) : Guarded files permitted before after :=
  fun same => ⟨kept.trans same, .none uncalled⟩

theorem guarded_askConsent (dispatcher : Dispatcher) (name : String) :
    Leads (Guarded files permitted) (askConsent dispatcher name) := by
  have asked : Leads (Guarded files permitted) (Step.ask askConfirmation) := by
    intro world
    obtain ⟨written, rest, run⟩ := Step.runIn_ask askConfirmation world
    rw [run]
    exact .calm rfl rfl
  have declined : Leads (Guarded files permitted) (cancelled name) := by
    intro world
    obtain ⟨record, run⟩ := runIn_cancelled name world
    rw [run]
    exact .calm rfl rfl
  refine .bind .trans asked fun answer => ?_
  cases answer with
  | none => exact fun _ => .calm rfl rfl
  | some consent =>
      cases consent with
      | true => exact fun _ => .calm rfl rfl
      | false => exact leads_conclude (fun _ led => led) dispatcher declined

end Guarded

section Granted

variable {application : Application} {profile reference : String} {found : Profile}
variable {usual : Client} {files : Tree}

theorem guarded_deletionAction (installed : application.client = some usual)
    (loaded : application.profile files profile = .ok found) (name : String) (dryRun : Bool) :
    Leads (Guarded files (Granted found reference))
      (deletionAction application profile reference name dryRun) := by
  intro world same
  have kept := deletionAction_keeps_files application profile reference name dryRun world
  refine ⟨Eq.trans kept same, calls_opened installed (same ▸ loaded) fun graph parsed => ?_⟩
  have composed : Composed (Granted found reference)
      (Command.deleteSubgraph graph name dryRun) :=
    composed_request _ _ _ _ (fun _ => .pure _) parsed
  exact composed.calls

theorem guarded_deleteSubgraph (dispatcher : Dispatcher)
    (installed : application.client = some usual)
    (loaded : application.profile files profile = .ok found) (name : String) (confirmed : Bool) :
    Leads (Guarded files (Granted found reference))
      (deleteSubgraph dispatcher application profile reference name confirmed) := by
  have concluded : Leads _ (Step.conclude dispatcher
      (deletionAction application profile reference name false)) :=
    leads_conclude (fun _ led => led) dispatcher
      (guarded_deletionAction installed loaded name false)
  cases confirmed with
  | true => exact concluded
  | false =>
      -- The profile is loaded a second time behind the question, from files that nothing changed.
      rw [deleteSubgraph_unconfirmed]
      refine .bind .trans ?_ fun _ =>
        .bind .trans (guarded_askConsent dispatcher name) fun _ => concluded
      exact leads_attempt (fun _ led => led) dispatcher _
        (guarded_deletionAction installed loaded name true)

/-- With a profile that can be loaded, a task for the registry makes the calls that this profile
and its reference entitle to, and no others. -/
theorem calls_perform_granted (dispatcher : Dispatcher) {task : Task}
    (wanted : task.registry? = some (profile, reference))
    (installed : application.client = some usual) {world : World}
    (loaded : application.profile world.files profile = .ok found) :
    Calls (Granted found reference) world
      (runIn (perform dispatcher application task) world).2 := by
  cases task with
  | onGraph _ _ task =>
      cases wanted
      -- Only one client is opened, so what the task may do to the files is of no concern.
      have asked : ∀ graph, GraphRef.parse? reference = some graph →
          Leads (Calls (Granted found reference)) (graphAction graph task) := by
        intro graph parsed
        have granted : ∀ request : Request, request.graph = graph →
            Granted found reference (.registry request) := by
          rintro request rfl
          exact parsed
        exact (composed_graphAction graph task fun request about _ => granted request about).calls
      have led : Leads (fun before after => before.files = world.files →
          Calls (Granted found reference) before after)
          (openGraph application profile reference >>= fun graph => graphAction graph task) :=
        fun before same => calls_opened installed (same ▸ loaded) asked
      exact leads_conclude (fun _ led => led) dispatcher led world rfl
  | deleteSubgraph _ _ name confirmed =>
      cases wanted
      exact (guarded_deleteSubgraph dispatcher installed loaded name confirmed world rfl).2
  | _ => cases wanted

end Granted

end GraphConsole.CommandLine
