import GraphConsole.Proofs.CommandLine.Consent
import GraphConsole.Proofs.CommandLine.Opening
import GraphConsole.Proofs.Profile.Loading

/-! Admission to the registry: how a run ends that is not let through to it, and what a run may ask
that is. -/

namespace GraphConsole.Service.Application

/-- The key in the environment, without the blanks around it. -/
def givenKey (application : Application) : String :=
  Text.trimmed (application.environmentKey.getD "")

/-- What comes of opening the first client. -/
def opening (application : Application) (usual : Client) : Reaction Client :=
  Script.reaction (if application.openings.isEmpty then [.ok usual] else application.openings)

end GraphConsole.Service.Application

namespace GraphConsole.CommandLine

open GraphConsole.Files
open GraphConsole.Registry
open GraphConsole.Service
open GraphConsole.Text

/-- A run ends with a failure told, after certain openings and without any request. -/
structure Rejected (dispatcher : Dispatcher) (code : Option String) (message : String)
    (openings : List Call) (world : World) (transcript : Transcript) : Prop where
  exitCode : transcript.exitCode = 1
  escaped : transcript.escaped = none
  calls : transcript.world.calls = world.calls ++ openings
  told : ∃ emission, Dispatcher.Tells code message dispatcher.format emission ∧
    transcript.world.output = world.output ++ emission.output ∧
    transcript.world.errors = world.errors ++ emission.errors

/-- What stands before the registry in an installation that can open clients. -/
structure Admission (application : Application) (usual : Client) (dispatcher : Dispatcher)
    (profile reference : String) (world : World) (transcript : Transcript) : Prop where
  unloaded : ∀ fault, application.profile world.files profile = .error fault →
    ∃ code message, Rejected dispatcher code message [] world transcript
  refused : ∀ failure, application.profile world.files profile = .error (.failure failure) →
    Rejected dispatcher failure.code failure.message [] world transcript
  invalid : Profile.validName profile = false →
    ∃ message, Rejected dispatcher (some "E020") message [] world transcript
  absent : Profile.validName profile = true → application.givenKey = "" →
    world.files.isDirectory (application.store.directory.child profile) = .ok false →
    ∃ message, Rejected dispatcher (some "E020") message [] world transcript
  keyless : Profile.validName profile = true → application.givenKey = "" →
    world.files.isDirectory (application.store.directory.child profile) = .ok true →
    Profile.Keyless world.files
      (Profile.Store.sensitiveFile (application.store.directory.child profile)) →
    ∃ message, Rejected dispatcher (some "E021") message [] world transcript
  given : Profile.validName profile = true → application.givenKey ≠ "" →
    application.profile world.files profile = .ok ⟨profile, application.givenKey⟩
  unopened : ∀ found fault, application.profile world.files profile = .ok found →
    application.opening usual = .error fault →
    transcript.world.calls = world.calls ++ [.client found.name found.apiKey] ∧
      ∀ failure, fault.reported? = some failure →
        Rejected dispatcher failure.code failure.message [.client found.name found.apiKey] world
          transcript
  unparsed : ∀ found client, application.profile world.files profile = .ok found →
    application.opening usual = .ok client → GraphRef.parse? reference = none →
    ∃ message, Rejected dispatcher (some "E001") message [.client found.name found.apiKey] world
      transcript
  granted : ∀ found, application.profile world.files profile = .ok found →
    Calls (Granted found reference) world transcript.world

section Carried

variable {embedding : Embedding} {invocation : Invocation} {profile reference : String}
variable {world : World}

/-- The run of an invocation in an installation. -/
def transcriptOf (embedding : Embedding) (invocation : Invocation) (world : World) : Transcript :=
  .ofRun invocation.usage (embedding.carryOut invocation world)

variable (wanted : invocation.task.registry? = some (profile, reference))

include wanted

theorem transcriptOf_refused {fault : Fault} {after : World}
    (refused : runIn (openGraph embedding.application profile reference)
      (embedding.prepare invocation.settings world) = (.error fault, after)) :
    transcriptOf embedding invocation world = .ofEnding invocation.usage
      (wrote (Step.toldOf (embedding.dispatcher invocation.settings) fault) after)
      (Step.endingOf fault) := by
  have run := runIn_perform_refused (embedding.dispatcher invocation.settings) refused wanted
  unfold transcriptOf Embedding.carryOut
  unfold runIn at run
  rw [run]
  rfl

theorem rejected_of_refused {fault : Fault} {failure : Failure} {after : World}
    (refused : runIn (openGraph embedding.application profile reference)
      (embedding.prepare invocation.settings world) = (.error fault, after))
    (reported : fault.reported? = some failure) {openings : List Call}
    (calls : after.calls = world.calls ++ openings) (output : after.output = world.output)
    (errors : after.errors = world.errors) :
    Rejected (embedding.dispatcher invocation.settings) failure.code failure.message openings world
      (transcriptOf embedding invocation world) := by
  have ended : transcriptOf embedding invocation world =
      ⟨1, wrote ((embedding.dispatcher invocation.settings).shown (.failure failure)) after,
        none⟩ := by
    rw [transcriptOf_refused wanted refused, Step.endingOf, Step.toldOf, reported]
    rfl
  rw [ended]
  constructor
  case exitCode => rfl
  case escaped => rfl
  case calls => exact calls
  case told =>
    refine ⟨_, Dispatcher.tells_shown _ failure, ?_, ?_⟩
    · rw [← output]
      rfl
    · rw [← errors]
      rfl

theorem calls_transcriptOf_refused {fault : Fault} {after : World}
    (refused : runIn (openGraph embedding.application profile reference)
      (embedding.prepare invocation.settings world) = (.error fault, after)) :
    (transcriptOf embedding invocation world).world.calls = after.calls := by
  rw [transcriptOf_refused wanted refused]
  obtain ⟨emission, written⟩ := ofRun_writes invocation.usage (.error (Step.endingOf fault))
    (wrote (Step.toldOf (embedding.dispatcher invocation.settings) fault) after)
  exact (congrArg World.calls written).trans rfl

theorem rejected_of_lacking (lacking : embedding.application.client = none) :
    Rejected (embedding.dispatcher invocation.settings) none
      (Application.lacking "registry client").message [] world
      (transcriptOf embedding invocation world) :=
  rejected_of_refused wanted (runIn_openGraph_lacking lacking) rfl (List.append_nil _).symm rfl rfl

section Installed

variable {usual : Client} (installed : embedding.application.client = some usual)

include installed

theorem rejected_of_unloaded {fault : Fault} {failure : Failure}
    (failed : embedding.application.profile world.files profile = .error fault)
    (reported : fault.reported? = some failure) :
    Rejected (embedding.dispatcher invocation.settings) failure.code failure.message [] world
      (transcriptOf embedding invocation world) :=
  rejected_of_refused wanted (runIn_openGraph_unloaded installed failed) reported
    (List.append_nil _).symm rfl rfl

theorem admission : Admission embedding.application usual
    (embedding.dispatcher invocation.settings) profile reference world
    (transcriptOf embedding invocation world) := by
  constructor
  case unloaded =>
    intro fault failed
    obtain ⟨failure, reported⟩ := Profile.Store.load_reported _ _ failed
    exact ⟨_, _, rejected_of_unloaded wanted installed failed reported⟩
  case refused =>
    intro failure failed
    exact rejected_of_unloaded wanted installed failed rfl
  case invalid =>
    intro invalid
    exact ⟨_, rejected_of_unloaded wanted installed (Profile.Store.load_of_invalid _ _ invalid) rfl⟩
  case absent =>
    intro valid blank none
    have failed := Profile.Store.load_of_blank embedding.application.store world.files valid blank
    rw [none] at failed
    exact ⟨_, rejected_of_unloaded wanted installed failed rfl⟩
  case keyless =>
    intro valid blank present keyless
    have failed := Profile.Store.load_of_blank embedding.application.store world.files valid blank
    obtain ⟨reason, unkeyed⟩ := Profile.Store.storedKey_of_keyless keyless profile
    rw [present, unkeyed] at failed
    exact ⟨_, rejected_of_unloaded wanted installed failed rfl⟩
  case given =>
    intro valid filled
    exact Profile.Store.load_of_filled _ _ valid filled
  case unopened =>
    intro found fault loaded failed
    have refused : runIn (openGraph embedding.application profile reference)
        (embedding.prepare invocation.settings world) = (.error fault, asking found _) :=
      runIn_openGraph_unopened installed loaded failed
    refine ⟨calls_transcriptOf_refused wanted refused, fun failure reported => ?_⟩
    exact rejected_of_refused wanted refused reported rfl rfl rfl
  case unparsed =>
    intro found client loaded opened unread
    have refused : runIn (openGraph embedding.application profile reference)
        (embedding.prepare invocation.settings world) =
        ((GraphRef.parse reference).mapError Fault.failure, _) :=
      runIn_openGraph_opened installed loaded opened
    rw [GraphRef.parse, unread] at refused
    exact ⟨_, rejected_of_refused wanted refused rfl rfl rfl rfl⟩
  case granted =>
    intro found loaded
    have granted : Calls (Granted found reference)
        (embedding.prepare invocation.settings world) _ :=
      calls_perform_granted (embedding.dispatcher invocation.settings) wanted installed loaded
    obtain ⟨emission, written⟩ := ofRun_writes invocation.usage
      (embedding.carryOut invocation world).1 (embedding.carryOut invocation world).2
    rw [transcriptOf, written]
    exact granted

end Installed

end Carried

/-- An invocation for the registry asks it for nothing without a profile and a graph: what keeps it
from either is told, and with both all of its calls are for that profile and about that graph. -/
theorem run_admits (embedding : Option Embedding) (environment : List (String × String))
    (words : List String) (world : World) {invocation : Invocation} {profile reference : String}
    (read : readInvocation ⟨environment, world.files⟩ words = .ok invocation)
    (wanted : invocation.task.registry? = some (profile, reference)) :
    let installed := installation embedding environment invocation.settings
    let dispatcher := installed.dispatcher invocation.settings
    let transcript := run embedding environment words world
    (installed.application.client = none →
      ∃ message, Rejected dispatcher none message [] world transcript) ∧
    ∀ usual, installed.application.client = some usual →
      Admission installed.application usual dispatcher profile reference world transcript := by
  intro installed dispatcher transcript
  have carried : transcript = transcriptOf installed invocation world := run_carriedOut read
  rw [carried]
  exact ⟨fun lacking => ⟨_, rejected_of_lacking wanted lacking⟩,
    fun usual found => admission wanted found⟩

/-- An installation that deletes whatever it is asked to. -/
def obliging : Embedding :=
  deleting [.ok { supergraphUpdated := true }]

/-- A deletion with a preview opens two clients, both for the same profile. -/
theorem run_admits_previewedDeletion :
    readInvocation {} deletionWords = .ok unconfirmedDeletion ∧
      unconfirmedDeletion.task.registry? = some ("default", "g") ∧
      Calls (Granted ⟨"default", "service:g:key"⟩ "g") (answering "y\n")
        (run obliging [] deletionWords (answering "y\n")).world ∧
      (run obliging [] deletionWords (answering "y\n")).world.calls = [
        .client "default" "service:g:key", .registry (.deleteSubgraph { name := "g" } "s" true),
        .client "default" "service:g:key",
        .registry (.deleteSubgraph { name := "g" } "s" false)] := by
  have wanted : unconfirmedDeletion.task.registry? = some ("default", "g") := by rfl
  have admits := (run_admits obliging [] deletionWords (answering "y\n")
    readInvocation_deletionWords wanted).2 _ rfl
  rw [installation_some] at admits
  have granted := admits.granted _ (admits.given (by decide) (by decide))
  exact ⟨readInvocation_deletionWords, wanted, granted, by rfl⟩

/-! Failures that are not told as their places in this order suggest. -/

/-- What the screen begins with after a rejection. -/
theorem Rejected.labelled {dispatcher : Dispatcher} {code : Option String} {message : String}
    {openings : List Call} {world : World} {transcript : Transcript}
    (rejected : Rejected dispatcher code message openings world transcript)
    (plain : dispatcher.format = .plain) (line : '\n' ∉ (Dispatcher.label code).toList)
    (cell : '\t' ∉ (Dispatcher.label code).toList) :
    ∃ rest, transcript.world.errors = world.errors ++ ((Dispatcher.label code).toList ++ rest) := by
  obtain ⟨emission, tells, _, errors⟩ := rejected.told
  rw [plain] at tells
  obtain ⟨rest, begun⟩ := tells.labelled line cell
  exact ⟨rest, by rw [errors, begun]⟩

/-- A failure without a code is not taken for one that has the code of a bad reference or of an
unusable key. -/
theorem Rejected.uncoded {dispatcher : Dispatcher} {message other code : String}
    {openings others : List Call} {world : World} {transcript : Transcript}
    (rejected : Rejected dispatcher none message openings world transcript)
    (plain : dispatcher.format = .plain) (known : code = "E001" ∨ code = "E021") :
    ¬ Rejected dispatcher (some code) other others world transcript := by
  intro coded
  obtain ⟨rest, bare⟩ := rejected.labelled plain (by decide) (by decide)
  have begins : ∃ rest, transcript.world.errors =
      world.errors ++ ((Dispatcher.label (some code)).toList ++ rest) := by
    rcases known with rfl | rfl
    · exact coded.labelled plain (by decide) (by decide)
    · exact coded.labelled plain (by decide) (by decide)
  obtain ⟨more, labelled⟩ := begins
  -- Behind the same beginning there cannot be a colon and a bracket at once.
  have same := List.append_cancel_left (bare.symm.trans labelled)
  rcases known with rfl | rfl
  · simp [Dispatcher.label] at same
  · simp [Dispatcher.label] at same

def fetching (reference : String) : Invocation where
  settings := { configHome := .ofText "home/.config/rover" }
  usage := ⟨["graph", "fetch"], ["GRAPH_REF"]⟩
  task := .onGraph "default" reference .fetchGraph

/-- An installation whose clients cannot be opened. -/
def unopenable : Embedding where
  application :=
    { store := ⟨.ofText "config"⟩
      environmentKey := some "service:g:key"
      client := some .silent
      openings := [.error (.incident ⟨"ValueError", [.string "closed"], []⟩)] }

theorem readInvocation_badReference :
    readInvocation {} ["graph", "fetch", "1"] = .ok (fetching "1") := rfl

theorem loaded_unopenable :
    unopenable.application.profile {} "default" = .ok ⟨"default", "service:g:key"⟩ := rfl

/-- An installation without a key in the environment. -/
def storing : Embedding where
  application := { store := ⟨.ofText "config"⟩, client := some .silent }

/-- A directory stands in the place of the stored key. -/
def misplaced : World where
  files := ((Tree.mk []).ensureDirectories (.ofText "config/profiles/default/.sensitive")).2

theorem readInvocation_misplaced :
    readInvocation ⟨[], misplaced.files⟩ ["graph", "fetch", "g"] = .ok (fetching "g") := rfl

theorem unloaded_misplaced :
    storing.application.profile misplaced.files "default" =
      .error (.incident
        (Trouble.system .isDirectory "config/profiles/default/.sensitive").toIncident) := rfl

/-- A bad reference goes without its code where the client cannot be opened, and an unusable key
where a directory stands in its place. -/
theorem rejections_without_code :
    (readInvocation {} ["graph", "fetch", "1"] = .ok (fetching "1") ∧
      (fetching "1").task.registry? = some ("default", "1") ∧
      unopenable.application.client = some .silent ∧
      unopenable.application.profile {} "default" = .ok ⟨"default", "service:g:key"⟩ ∧
      GraphRef.parse? "1" = none ∧
      ∀ message openings, ¬ Rejected (unopenable.dispatcher (fetching "1").settings)
        (some "E001") message openings {} (run unopenable [] ["graph", "fetch", "1"] {})) ∧
    readInvocation ⟨[], misplaced.files⟩ ["graph", "fetch", "g"] = .ok (fetching "g") ∧
      (fetching "g").task.registry? = some ("default", "g") ∧
      storing.application.client = some .silent ∧
      (∃ fault, storing.application.profile misplaced.files "default" = .error fault) ∧
      ∀ message openings, ¬ Rejected (storing.dispatcher (fetching "g").settings)
        (some "E021") message openings misplaced
        (run storing [] ["graph", "fetch", "g"] misplaced) := by
  have badReference : run unopenable [] ["graph", "fetch", "1"] {} =
      transcriptOf unopenable (fetching "1") {} := run_carriedOut readInvocation_badReference
  have badKey : run storing [] ["graph", "fetch", "g"] misplaced =
      transcriptOf storing (fetching "g") misplaced := run_carriedOut readInvocation_misplaced
  rw [badReference, badKey]
  refine ⟨⟨readInvocation_badReference, rfl, rfl, loaded_unopenable, by rfl,
    fun message openings => ?_⟩, readInvocation_misplaced, rfl, rfl, ⟨_, unloaded_misplaced⟩,
    fun message openings => ?_⟩
  · have admission : Admission unopenable.application .silent
        (unopenable.dispatcher (fetching "1").settings) "default" "1" {} _ := admission rfl rfl
    have closed := (admission.unopened _ _ loaded_unopenable rfl).2 _ rfl
    exact closed.uncoded rfl (.inl rfl)
  · have closed : Rejected (storing.dispatcher (fetching "g").settings) none _ [] misplaced
        (transcriptOf storing (fetching "g") misplaced) :=
      rejected_of_unloaded rfl rfl unloaded_misplaced rfl
    exact closed.uncoded rfl (.inr rfl)

end GraphConsole.CommandLine
