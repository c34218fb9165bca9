import GraphConsole.Proofs.CommandLine.Deletion

/-! Consent to deletions. In one run there is at most one real deletion, and only after a
confirmation on the command line, or after a preview that came to an end and a yes. -/

namespace GraphConsole.CommandLine

open GraphConsole.Command
open GraphConsole.Service
open GraphConsole.Text

/-- What becomes of a deletion without a confirmation, depending on its preview and on the answer:
the calls it has made, and the run it ends. -/
structure Deliberate (dispatcher : Dispatcher) (input : List Char)
    (preview : Except Fault Output × World) (made : List Call) (transcript : Transcript) : Prop where
  order : deletions made ∈ [[], [true], [true, false]]
  consent : false ∈ deletions made →
    (∃ output, preview.1 = .ok output) ∧ firstDecisive (inputLines input) = some true
  failed : ∀ fault, preview.1 = .error fault →
    transcript.exitCode = fault.status ∧ transcript.world.calls = preview.2.calls ∧
      transcript.world.input = input
  declined : ∀ output, preview.1 = .ok output →
    firstDecisive (inputLines input) = some false →
      transcript.exitCode = 0 ∧ deletions made = [true] ∧
        ∃ before, transcript.world =
            wrote (dispatcher.shown (.success (.known .emptySuccess))) before ∧
          before.output = preview.2.output ++
            (if dispatcher.format != .json then dispatcher.shown (.success (.known output))
              else {}).output
  unanswered : ∀ output, preview.1 = .ok output →
    firstDecisive (inputLines input) = none →
      transcript.exitCode = 1 ∧ deletions made = [true] ∧
        ∃ before, transcript.world = wrote { errors := "Aborted!\n".toList } before

section Unconfirmed

variable (dispatcher : Dispatcher) (application : Application) (profile reference name : String)
variable (usage : Usage) {world after : World}

theorem deliberate_failed {fault : Fault}
    (preview : runIn (deletionAction application profile reference name true) world =
      (.error fault, after)) :
    ∃ made,
      (unconfirmedRun dispatcher application profile reference name usage world).world.calls =
        world.calls ++ made ∧
      Deliberate dispatcher world.input (.error fault, after) made
        (unconfirmedRun dispatcher application profile reference name usage world) := by
  obtain ⟨made, calls, input, asked⟩ := runIn_deletionAction application profile reference name
    true world preview
  obtain ⟨emission, escaped, ended⟩ := unconfirmedRun_failed dispatcher application profile
    reference name usage preview
  rw [ended]
  have previewed : deletions made = [true] ∨ deletions made = [] := by
    rcases asked with asked | ⟨unasked, _⟩
    · exact .inl asked
    · exact .inr unasked
  refine ⟨made, calls, ?_⟩
  constructor
  case order =>
    rcases previewed with previewed | previewed
    · simp [previewed]
    · simp [previewed]
  case consent =>
    rcases previewed with previewed | previewed
    · simp [previewed]
    · simp [previewed]
  case failed =>
    rintro _ ⟨rfl⟩
    exact ⟨rfl, rfl, input⟩
  case declined =>
    intro _ ended
    cases ended
  case unanswered =>
    intro _ ended
    cases ended

variable {output : Output}
variable (preview : runIn (deletionAction application profile reference name true) world =
  (.ok output, after))

include preview

theorem deliberate_declined (answer : firstDecisive (inputLines world.input) = some false) :
    ∃ made,
      (unconfirmedRun dispatcher application profile reference name usage world).world.calls =
        world.calls ++ made ∧
      Deliberate dispatcher world.input (.ok output, after) made
        (unconfirmedRun dispatcher application profile reference name usage world) := by
  obtain ⟨made, calls, input, previewed⟩ := previewed_of_ok preview
  rw [← input] at answer ⊢
  obtain ⟨before, ended, same, written⟩ := unconfirmedRun_declined dispatcher application profile
    reference name usage preview answer
  rw [ended]
  refine ⟨made, same.trans calls, ?_⟩
  constructor
  case order => simp [previewed]
  case consent => simp [previewed]
  case failed =>
    intro _ failed
    cases failed
  case declined =>
    rintro _ ⟨rfl⟩ _
    exact ⟨rfl, previewed, before, rfl, written⟩
  case unanswered => simp [answer]

theorem deliberate_unanswered (answer : firstDecisive (inputLines world.input) = none) :
    ∃ made,
      (unconfirmedRun dispatcher application profile reference name usage world).world.calls =
        world.calls ++ made ∧
      Deliberate dispatcher world.input (.ok output, after) made
        (unconfirmedRun dispatcher application profile reference name usage world) := by
  obtain ⟨made, calls, input, previewed⟩ := previewed_of_ok preview
  rw [← input] at answer ⊢
  obtain ⟨before, ended, same⟩ := unconfirmedRun_unanswered dispatcher application profile
    reference name usage preview answer
  rw [ended]
  refine ⟨made, same.trans calls, ?_⟩
  constructor
  case order => simp [previewed]
  case consent => simp [previewed]
  case failed =>
    intro _ failed
    cases failed
  case declined => simp [answer]
  case unanswered =>
    intro _ _ _
    exact ⟨rfl, previewed, before, rfl⟩

theorem deliberate_consented (answer : firstDecisive (inputLines world.input) = some true) :
    ∃ made,
      (unconfirmedRun dispatcher application profile reference name usage world).world.calls =
        world.calls ++ made ∧
      Deliberate dispatcher world.input (.ok output, after) made
        (unconfirmedRun dispatcher application profile reference name usage world) := by
  obtain ⟨made, calls, input, previewed⟩ := previewed_of_ok preview
  rw [← input] at answer ⊢
  obtain ⟨further, added, deleted⟩ := unconfirmedRun_consented dispatcher application profile
    reference name usage preview answer
  refine ⟨made ++ further, ?_, ?_⟩
  · rw [added, calls, List.append_assoc]
  constructor
  case order =>
    rw [deletions_append, previewed]
    simp only [List.mem_cons, List.not_mem_nil, or_false] at deleted
    rcases deleted with unmade | deleted
    · simp [unmade]
    · simp [deleted]
  case consent =>
    intro _
    exact ⟨⟨output, rfl⟩, answer⟩
  case failed =>
    intro _ failed
    cases failed
  case declined => simp [answer]
  case unanswered => simp [answer]

end Unconfirmed

theorem deliberate_unconfirmedRun (dispatcher : Dispatcher) (application : Application)
    (profile reference name : String) (usage : Usage) (world : World) :
    ∃ made,
      (unconfirmedRun dispatcher application profile reference name usage world).world.calls =
        world.calls ++ made ∧
      Deliberate dispatcher world.input
        (runIn (deletionAction application profile reference name true) world) made
        (unconfirmedRun dispatcher application profile reference name usage world) := by
  cases preview : runIn (deletionAction application profile reference name true) world with
  | mk result after =>
      cases result with
      | error fault =>
          exact deliberate_failed dispatcher application profile reference name usage preview
      | ok output =>
          cases answer : firstDecisive (inputLines world.input) with
          | none =>
              exact deliberate_unanswered dispatcher application profile reference name usage
                preview answer
          | some consent =>
              cases consent with
              | false =>
                  exact deliberate_declined dispatcher application profile reference name usage
                    preview answer
              | true =>
                  exact deliberate_consented dispatcher application profile reference name usage
                    preview answer

/-! Whole runs. -/

theorem storeProfile_deletes_nothing (dispatcher : Dispatcher) (store : Profile.Store)
    (name : String) :
    Leads (Calls fun call => deletion? call = none) (storeProfile dispatcher store name) := by
  refine .bind .trans (calls_ask askKey) fun answer => ?_
  cases answer with
  | some key => exact calls_conclude dispatcher (composed_saveProfile store name _).calls
  | none => exact .bind .trans (fun _ => .none rfl) fun _ _ => .none rfl

theorem perform_deletes_nothing (dispatcher : Dispatcher) (application : Application) (task : Task)
    (other : ∀ profile reference name confirmed,
      task ≠ .deleteSubgraph profile reference name confirmed) :
    Leads (Calls fun call => deletion? call = none) (perform dispatcher application task) := by
  rcases perform_cases _ application task (fun _ harmless => harmless) with
    ⟨action, composed, concluded⟩ | ⟨name, rfl⟩ | ⟨profile, reference, name, confirmed, rfl⟩
  · rw [concluded]
    exact calls_conclude dispatcher composed.calls
  · exact storeProfile_deletes_nothing dispatcher application.store name
  · exact absurd rfl (other profile reference name confirmed)

def Embedding.preview (embedding : Embedding) (settings : Settings)
    (profile reference name : String) (world : World) : Except Fault Output × World :=
  runIn (deletionAction embedding.application profile reference name true)
    (embedding.prepare settings world)

/-- The deletions of one invocation: none for other tasks, no preview with a confirmation. -/
def Cautious (embedding : Embedding) (invocation : Invocation) (world : World) (made : List Call)
    (transcript : Transcript) : Prop :=
  match invocation.task with
  | .deleteSubgraph _ _ _ true => deletions made ∈ [[], [false]]
  | .deleteSubgraph profile reference name false =>
      Deliberate (embedding.dispatcher invocation.settings) world.input
        (embedding.preview invocation.settings profile reference name world) made transcript
  | _ => deletions made = []

theorem cautious_of_other {embedding : Embedding} {invocation : Invocation} {world : World}
    {made : List Call} {transcript : Transcript}
    (other : ∀ profile reference name confirmed,
      invocation.task ≠ .deleteSubgraph profile reference name confirmed)
    (unmade : deletions made = []) : Cautious embedding invocation world made transcript := by
  unfold Cautious
  split
  · next found => exact absurd found (other _ _ _ _)
  · next found => exact absurd found (other _ _ _ _)
  · exact unmade

theorem cautious_carryOut (embedding : Embedding) (invocation : Invocation) (world : World) :
    ∃ made,
      (Transcript.ofRun invocation.usage (embedding.carryOut invocation world)).world.calls =
          world.calls ++ made ∧
      Cautious embedding invocation world made
        (.ofRun invocation.usage (embedding.carryOut invocation world)) := by
  obtain ⟨settings, usage, task⟩ := invocation
  by_cases deletion : ∃ profile reference name confirmed,
      task = .deleteSubgraph profile reference name confirmed
  · obtain ⟨profile, reference, name, confirmed, rfl⟩ := deletion
    cases confirmed with
    | true =>
        exact concluded_deletion (embedding.dispatcher settings) embedding.application
          profile reference name usage (embedding.prepare settings world)
    | false =>
        exact deliberate_unconfirmedRun (embedding.dispatcher settings) embedding.application
          profile reference name usage (embedding.prepare settings world)
  · have other : ∀ profile reference name confirmed,
        task ≠ .deleteSubgraph profile reference name confirmed := by
      intro profile reference name confirmed same
      exact deletion ⟨profile, reference, name, confirmed, same⟩
    obtain ⟨made, added, harmless⟩ := perform_deletes_nothing (embedding.dispatcher settings)
      embedding.application task other (embedding.prepare settings world)
    obtain ⟨emission, written⟩ := ofRun_writes usage
      (embedding.carryOut ⟨settings, usage, task⟩ world).1
      (embedding.carryOut ⟨settings, usage, task⟩ world).2
    refine ⟨made, ?_, cautious_of_other other (deletions_eq_nil harmless)⟩
    rw [written]
    exact added

theorem Cautious.order {embedding : Embedding} {invocation : Invocation} {world : World}
    {made : List Call} {transcript : Transcript}
    (cautious : Cautious embedding invocation world made transcript) :
    deletions made ∈ [[], [true], [true, false], [false]] := by
  unfold Cautious at cautious
  split at cautious
  · simp only [List.mem_cons, List.not_mem_nil, or_false] at cautious ⊢
    grind
  · have order := cautious.order
    simp only [List.mem_cons, List.not_mem_nil, or_false] at order ⊢
    grind
  · simp [cautious]

/-- In one run a subgraph is deleted at most once, and never without consent. -/
theorem run_deletes_with_consent (embedding : Option Embedding)
    (environment : List (String × String)) (words : List String) (world : World) :
    ∃ made,
      (run embedding environment words world).world.calls = world.calls ++ made ∧
      deletions made ∈ [[], [true], [true, false], [false]] ∧
      (∀ halt, readInvocation ⟨environment, world.files⟩ words = .error halt → made = []) ∧
      ∀ invocation, readInvocation ⟨environment, world.files⟩ words = .ok invocation →
        Cautious (installation embedding environment invocation.settings) invocation world made
          (run embedding environment words world) := by
  cases read : readInvocation ⟨environment, world.files⟩ words with
  | error halt =>
      obtain ⟨code, emission, escaped, halted⟩ := Transcript.ofHalt_writes halt
      rw [run_halted read, halted]
      refine ⟨[], (List.append_nil _).symm, by simp [deletions], fun _ _ => rfl, ?_⟩
      intro _ accepted
      cases accepted
  | ok invocation =>
      rw [run_carriedOut read]
      obtain ⟨made, added, cautious⟩ := cautious_carryOut
        (installation embedding environment invocation.settings) invocation world
      refine ⟨made, added, cautious.order, ?_, ?_⟩
      · intro _ rejected
        cases rejected
      · rintro _ ⟨rfl⟩
        exact cautious

def unconfirmedDeletion : Invocation where
  settings := { configHome := .ofText "home/.config/rover" }
  usage := ⟨["subgraph", "delete"], ["GRAPH_REF"]⟩
  task := .deleteSubgraph "default" "g" "s" false

theorem readInvocation_deletionWords :
    readInvocation {} deletionWords = .ok unconfirmedDeletion := rfl

theorem run_deletes_with_consent_yes :
    ∃ made,
      (run (deleting [.ok { supergraphUpdated := true }]) [] deletionWords
        (answering "maybe\nYes\n")).world.calls = made ∧
      deletions made = [true, false] ∧
      Cautious (deleting [.ok { supergraphUpdated := true }]) unconfirmedDeletion
        (answering "maybe\nYes\n") made
        (run (deleting [.ok { supergraphUpdated := true }]) [] deletionWords
          (answering "maybe\nYes\n")) := by
  obtain ⟨made, added, _, _, cautious⟩ := run_deletes_with_consent
    (deleting [.ok { supergraphUpdated := true }]) [] deletionWords (answering "maybe\nYes\n")
  have safe := cautious unconfirmedDeletion readInvocation_deletionWords
  rw [installation_some] at safe
  have calls : made = (run (deleting [.ok { supergraphUpdated := true }]) [] deletionWords
      (answering "maybe\nYes\n")).world.calls := added.symm
  have deleted : deletions made = [true, false] := by
    rw [calls]
    rfl
  exact ⟨made, calls.symm, deleted, safe⟩

/-- A preview that fails with a request to leave the program does not end with exit code 1. -/
theorem previewFailure_leaves_with_status :
    ¬ ∀ (embedding : Embedding) (environment : List (String × String)) (words : List String)
        (world : World) (invocation : Invocation) (profile reference name : String)
        (fault : Fault),
      readInvocation ⟨environment, world.files⟩ words = .ok invocation →
      invocation.task = .deleteSubgraph profile reference name false →
      (embedding.preview invocation.settings profile reference name world).1 = .error fault →
      (∀ refusal, fault ≠ .refusal refusal) →
      (run embedding environment words world).exitCode = 1 := by
  intro always
  have failed : ((deleting [.error (.interrupt ⟨"SystemExit", [.integer 3], []⟩)]).preview
      unconfirmedDeletion.settings "default" "g" "s" (answering "y\n")).1 =
        .error (.interrupt ⟨"SystemExit", [.integer 3], []⟩) := by rfl
  have three : (run (deleting [.error (.interrupt ⟨"SystemExit", [.integer 3], []⟩)]) []
      deletionWords (answering "y\n")).exitCode = 3 := by rfl
  have one := always (deleting [.error (.interrupt ⟨"SystemExit", [.integer 3], []⟩)]) []
    deletionWords (answering "y\n") unconfirmedDeletion "default" "g" "s"
    (.interrupt ⟨"SystemExit", [.integer 3], []⟩) readInvocation_deletionWords rfl failed nofun
  rw [three] at one
  exact absurd one (by decide)

end GraphConsole.CommandLine
