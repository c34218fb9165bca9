import GraphConsole.Proofs.Command.Secrecy
import GraphConsole.Proofs.CommandLine.Endings
import GraphConsole.Proofs.CommandLine.KeyQuestion
import GraphConsole.Proofs.CommandLine.Readings

/-! API keys do not leak. Runs that differ in a key alone write the same, end alike and make the
same calls, but for the key that a client is opened with; their files differ in the key's own at
most. -/

namespace GraphConsole.CommandLine

open GraphConsole.Command
open GraphConsole.Files
open GraphConsole.Service
open GraphConsole.Text

variable {veil : Veil} {fetcher : Fetcher}

theorem undisclosed_wrote {left right : World} (apart : World.Undisclosed veil fetcher left right)
    (emission : Emission) :
    World.Undisclosed veil fetcher (wrote emission left) (wrote emission right) := by
  obtain ⟨covers, called, fetching⟩ := apart
  exact .apart covers called fetching

/-! Steps. -/

section Steps

variable {first second : Action Output}

theorem reticent_present (dispatcher : Dispatcher) (reticent : Reticent veil fetcher first second)
    (emitSuccess : Bool) :
    Reticent veil fetcher (Step.present dispatcher first emitSuccess)
      (Step.present dispatcher second emitSuccess) := by
  intro left right apart
  obtain ⟨results, worlds⟩ := reticent left right apart
  cases leftRun : runIn first left with
  | mk result leftWorld =>
      cases rightRun : runIn second right with
      | mk other rightWorld =>
          rw [leftRun, rightRun] at results worlds
          cases results
          rw [Step.runIn_present leftRun, Step.runIn_present rightRun]
          cases dispatcher.run (result.map Answer.known) emitSuccess with
          | error fault => exact ⟨rfl, worlds⟩
          | ok shown => exact ⟨rfl, undisclosed_wrote worlds shown.2⟩

theorem reticent_conclude (dispatcher : Dispatcher)
    (reticent : Reticent veil fetcher first second) :
    Reticent veil fetcher (Step.conclude dispatcher first) (Step.conclude dispatcher second) :=
  related_conclude (reticent_present dispatcher reticent true)

theorem reticent_ask (question : List (List Char) → Asked α) :
    Reticent veil fetcher (Step.ask question) (Step.ask question) := by
  rintro left _ ⟨covers, called, fetching⟩
  exact ⟨rfl, .apart covers called fetching⟩

theorem reticent_write (emission : Emission) :
    Reticent veil fetcher (modify (wrote emission) : Step Unit) (modify (wrote emission)) := by
  intro left right apart
  exact ⟨rfl, undisclosed_wrote apart emission⟩

end Steps

/-! Tasks. -/

theorem reticent_storeProfile (dispatcher : Dispatcher) (store : Profile.Store) (name : String) :
    Reticent veil fetcher (storeProfile dispatcher store name)
      (storeProfile dispatcher store name) := by
  refine related_storeProfile (reticent_ask askKey) (fun key => ?_) (reticent_write _)
  exact reticent_conclude dispatcher (reticent_saveProfile store name .rfl (.inl rfl))

theorem reticent_askConsent (dispatcher : Dispatcher) (name : String) :
    Reticent veil fetcher (askConsent dispatcher name) (askConsent dispatcher name) :=
  related_askConsent (reticent_ask askConfirmation)
    (reticent_conclude dispatcher (.bind (.info _) fun _ => .pure _))

variable {application other : Application}

theorem reticent_deleteSubgraph (dispatcher : Dispatcher)
    (undisclosed : application.Undisclosed veil other) (profile reference name : String)
    (confirmed : Bool) :
    Reticent veil fetcher (deleteSubgraph dispatcher application profile reference name confirmed)
      (deleteSubgraph dispatcher other profile reference name confirmed) := by
  have deletion (dryRun : Bool) : Reticent veil fetcher
      (deletionAction application profile reference name dryRun)
      (deletionAction other profile reference name dryRun) :=
    reticent_deletionAction undisclosed profile reference name dryRun
  exact related_deleteSubgraph (reticent_present dispatcher (deletion true) _)
    (reticent_askConsent dispatcher name) (reticent_conclude dispatcher (deletion false)) confirmed

theorem reticent_perform (dispatcher : Dispatcher) (respects : fetcher.Respects veil)
    (undisclosed : application.Undisclosed veil other) {task : Task}
    (spares : veil.Spares task.sources) :
    Reticent veil fetcher (perform dispatcher application task)
      (perform dispatcher other task) := by
  cases task with
  | deleteSubgraph profile reference name confirmed =>
      exact reticent_deleteSubgraph dispatcher undisclosed profile reference name confirmed
  | onGraph profile reference task =>
      refine reticent_conclude dispatcher (.bind ?_ fun graph => ?_)
      · exact reticent_openGraph undisclosed profile reference
      · exact reticent_graphAction graph spares
  | listDocs => exact reticent_conclude dispatcher (.pure _)
  | openDocs slug => exact reticent_conclude dispatcher (reticent_openDocs slug)
  | explain code => exact reticent_conclude dispatcher (reticent_explain code)
  | listTemplates language => exact reticent_conclude dispatcher (reticent_listTemplates language)
  | listProfiles =>
      obtain ⟨_⟩ := undisclosed
      exact reticent_conclude dispatcher (reticent_listProfiles _)
  | storeProfile name =>
      obtain ⟨_⟩ := undisclosed
      exact reticent_storeProfile dispatcher _ name
  | useTemplate id path =>
      obtain ⟨_⟩ := undisclosed
      exact reticent_conclude dispatcher
        (.bind (.need _ _) fun _ => reticent_useTemplate respects id path)
  | introspect endpoint headers =>
      obtain ⟨_⟩ := undisclosed
      exact reticent_conclude dispatcher
        (.bind (.need _ _) fun _ => reticent_introspect endpoint headers)
  | compose sources skipHints =>
      obtain ⟨_⟩ := undisclosed
      refine reticent_conclude dispatcher (.bind (.need _ _) fun _ => ?_)
      exact .bind (reticent_readSubgraphSchemas spares) fun _ => reticent_composeSupergraph _ _

/-- A world in which a key is typed in behind some empty lines. -/
def typed (emptyLines : Nat) (key : String) (rest : List Char) (world : World) : World :=
  { world with input := List.replicate emptyLines '\n' ++ (key.toList ++ rest) }

theorem toList_ne_nil_of_filled {key : String} (filled : trimmed key ≠ "") : key.toList ≠ [] := by
  intro empty
  exact filled (by rw [trimmed, empty]; rfl)

/-- Keys that are typed in are stored alike, each in the file of the profile. -/
theorem undisclosed_storeProfile (dispatcher : Dispatcher) (store : Profile.Store) (name : String)
    {first second : String} (filledFirst : trimmed first ≠ "") (filledSecond : trimmed second ≠ "")
    (wholeFirst : '\n' ∉ first.toList) (wholeSecond : '\n' ∉ second.toList) (emptyLines : Nat)
    {rest : List Char} (ended : EndsLine rest) (world : World) :
    let left := runIn (storeProfile dispatcher store name) (typed emptyLines first rest world)
    let right := runIn (storeProfile dispatcher store name) (typed emptyLines second rest world)
    left.1 = right.1 ∧ World.Undisclosed (store.keyVeil name (trimmed first) (trimmed second))
      world.fetcher left.2 right.2 := by
  intro left right
  obtain ⟨written, asked⟩ := runIn_askKey emptyLines ended world
  have stored (key : String) (filled : trimmed key ≠ "") (whole : '\n' ∉ key.toList) :
      runIn (storeProfile dispatcher store name) (typed emptyLines key rest world) =
        runIn (Step.conclude dispatcher (saveProfile store name key))
          (wrote { errors := written } { world with input := rest.drop 1 }) := by
    have read := asked key.toList whole (toList_ne_nil_of_filled filled)
    rw [storeProfile, typed, runIn_bind_ok read]
    simp only [String.ofList_toList]
  have saved : Reticent (store.keyVeil name (trimmed first) (trimmed second)) world.fetcher
      (Step.conclude dispatcher (saveProfile store name first))
      (Step.conclude dispatcher (saveProfile store name second)) :=
    reticent_conclude dispatcher
      (reticent_saveProfile store name (by simp [filledFirst, filledSecond]) (.inr rfl))
  simp only [left, right, stored first filledFirst wholeFirst,
    stored second filledSecond wholeSecond]
  have after := World.undisclosed_self (store.keyVeil name (trimmed first) (trimmed second))
    (wrote { errors := written } { world with input := rest.drop 1 })
  exact saved _ _ after

/-! Whole runs. -/

/-- Runs that disclose nothing: what they leave and tell is the same but for the keys of clients,
and the files are as they should be. -/
structure Transcript.Undisclosed (related : Tree → Tree → Prop) (first second : Transcript) :
    Prop where
  exitCode : first.exitCode = second.exitCode
  output : first.world.output = second.world.output
  errors : first.world.errors = second.world.errors
  files : related first.world.files second.world.files
  calls : List.Forall₂ Call.SameButKey first.world.calls second.world.calls
  launched : first.world.launched = second.world.launched
  input : first.world.input = second.world.input
  escaped : first.escaped = second.escaped

namespace Transcript

theorem Undisclosed.mono {related other : Tree → Tree → Prop} {first second : Transcript}
    (undisclosed : Undisclosed related first second)
    (weaker : ∀ left right, related left right → other left right) :
    Undisclosed other first second :=
  { undisclosed with files := weaker _ _ undisclosed.files }

theorem undisclosed_of_world {first second : Transcript}
    (exitCode : first.exitCode = second.exitCode)
    (apart : World.Undisclosed veil fetcher first.world second.world)
    (escaped : first.escaped = second.escaped) : Undisclosed veil.Covers first second := by
  obtain ⟨code, left, incident⟩ := first
  obtain ⟨_, right, _⟩ := second
  obtain ⟨covers, called, fetching⟩ := apart
  exact ⟨exitCode, rfl, rfl, covers, called, rfl, rfl, escaped⟩

theorem undisclosed_ofEnding {left right : World}
    (apart : World.Undisclosed veil fetcher left right) (usage : Usage) (ending : Ending) :
    Undisclosed veil.Covers (ofEnding usage left ending) (ofEnding usage right ending) := by
  cases ending with
  | exit code => exact undisclosed_of_world rfl apart rfl
  | fault fault =>
      obtain ⟨emission, escaped, same⟩ := ofFault_writes usage fault
      rw [ofEnding, ofEnding, same left, same right]
      exact undisclosed_of_world rfl (undisclosed_wrote apart emission) rfl

theorem undisclosed_ofRun {left right : Except Ending Unit × World} (results : left.1 = right.1)
    (worlds : World.Undisclosed veil fetcher left.2 right.2) (usage : Usage) :
    Undisclosed veil.Covers (ofRun usage left) (ofRun usage right) := by
  obtain ⟨result, left⟩ := left
  obtain ⟨_, right⟩ := right
  obtain rfl := results
  cases result with
  | ok value => exact undisclosed_of_world rfl worlds rfl
  | error ending => exact undisclosed_ofEnding worlds usage ending

theorem undisclosed_ofHalt {left right : World} (apart : World.Undisclosed veil fetcher left right)
    (halt : Halt) : Undisclosed veil.Covers (ofHalt left halt) (ofHalt right halt) := by
  obtain ⟨code, emission, escaped, same⟩ := ofHalt_writes halt
  rw [same left, same right]
  exact undisclosed_of_world rfl (undisclosed_wrote apart emission) rfl

end Transcript

/-- The fetcher that a run uses. -/
def fetcherIn (embedding : Option Embedding) (world : World) : Fetcher :=
  (embedding.bind fun given => given.application.fetcher).getD world.fetcher

theorem fetcher_prepare (embedding : Option Embedding) (environment : List (String × String))
    (settings : Settings) (world : World) :
    ((installation embedding environment settings).prepare settings world).fetcher =
      fetcherIn embedding world := by
  cases embedding <;> rfl

theorem undisclosed_prepare {embedding : Embedding} {other : Application}
    (undisclosed : embedding.application.Undisclosed veil other) {files : Tree}
    (settings : Settings) (world : World) (covers : veil.Covers world.files files) :
    World.Undisclosed veil (embedding.prepare settings world).fetcher
      (embedding.prepare settings world)
      (Embedding.prepare { embedding with application := other } settings
        { world with files := files }) := by
  obtain ⟨_⟩ := undisclosed
  exact World.undisclosed_of_covers covers

theorem undisclosed_carryOut {embedding : Embedding} {other : Application}
    (undisclosed : embedding.application.Undisclosed veil other) (invocation : Invocation)
    (world : World) {files : Tree} (covers : veil.Covers world.files files)
    (respects : (embedding.prepare invocation.settings world).fetcher.Respects veil)
    (spares : veil.Spares invocation.task.sources) :
    let left := embedding.carryOut invocation world
    let right := Embedding.carryOut { embedding with application := other } invocation
      { world with files := files }
    left.1 = right.1 ∧ World.Undisclosed veil
      (embedding.prepare invocation.settings world).fetcher left.2 right.2 := by
  have prepared := undisclosed_prepare undisclosed invocation.settings world covers
  have performed := reticent_perform (embedding.dispatcher invocation.settings) respects
    undisclosed spares
  exact performed _ _ prepared

theorem undisclosed_run_of_covers {embedding other : Option Embedding}
    {environment otherEnvironment : List (String × String)} (words : List String) (world : World)
    {files : Tree} (covers : veil.Covers world.files files)
    (lookups : ∀ name, name ≠ keyVariable →
      otherEnvironment.lookup name = environment.lookup name)
    (installed : ∀ settings, ∃ application,
      (installation embedding environment settings).application.Undisclosed veil application ∧
        installation other otherEnvironment settings =
          { installation embedding environment settings with application := application })
    (respects : (fetcherIn embedding world).Respects veil)
    (spares : ∀ invocation, readInvocation ⟨environment, world.files⟩ words = .ok invocation →
      veil.Spares invocation.task.sources) :
    Transcript.Undisclosed veil.Covers (run embedding environment words world)
      (run other otherEnvironment words { world with files := files }) := by
  have alike : Setting.Alike ⟨environment, world.files⟩ ⟨otherEnvironment, files⟩ :=
    ⟨lookups, textComplaint_of_covers covers _ _⟩
  have same := alike.readInvocation_eq words
  cases read : readInvocation ⟨environment, world.files⟩ words with
  | error halt =>
      have otherRun := @run_halted other otherEnvironment words { world with files := files } halt
        (same.trans read)
      rw [run_halted read, otherRun]
      exact Transcript.undisclosed_ofHalt (World.undisclosed_of_covers covers) halt
  | ok invocation =>
      obtain ⟨application, undisclosed, installed⟩ := installed invocation.settings
      rw [← fetcher_prepare embedding environment invocation.settings] at respects
      have otherRun := @run_carriedOut other otherEnvironment words { world with files := files }
        invocation (same.trans read)
      rw [run_carriedOut read, otherRun, installed]
      obtain ⟨results, worlds⟩ := undisclosed_carryOut undisclosed invocation world covers respects
        (spares invocation read)
      exact Transcript.undisclosed_ofRun results worlds invocation.usage

def Embedding.withKey (embedding : Embedding) (key : String) : Embedding :=
  { embedding with application := { embedding.application with environmentKey := some key } }

theorem installation_withKey (embedding : Option Embedding) (environment : List (String × String))
    (key : String) (settings : Settings) :
    installation (embedding.map fun given => given.withKey key)
        ((keyVariable, key) :: environment) settings =
      (installation embedding environment settings).withKey key := by
  cases embedding <;> rfl

theorem lookup_withKey {name : String} (other : name ≠ keyVariable) (key : String)
    (environment : List (String × String)) :
    List.lookup name ((keyVariable, key) :: environment) = environment.lookup name := by
  have unequal : (name == keyVariable) = false := beq_eq_false_iff_ne.mpr other
  rw [List.lookup_cons, unequal]

section Keys

variable (embedding : Option Embedding) (environment : List (String × String))
variable (words : List String) (world : World) {first second : String}

theorem undisclosed_environmentKey (filledFirst : trimmed first ≠ "")
    (filledSecond : trimmed second ≠ "") :
    Transcript.Undisclosed Eq
      (run (embedding.map fun given => given.withKey first)
        ((keyVariable, first) :: environment) words world)
      (run (embedding.map fun given => given.withKey second)
        ((keyVariable, second) :: environment) words world) := by
  have undisclosed : Transcript.Undisclosed (Veil.Covers ⟨[], [], []⟩)
      (run (embedding.map fun given => given.withKey first)
        ((keyVariable, first) :: environment) words world)
      (run (embedding.map fun given => given.withKey second)
        ((keyVariable, second) :: environment) words world) := by
    apply undisclosed_run_of_covers words world (Veil.covers_refl _ _)
    case lookups => exact fun name other => by rw [lookup_withKey other, lookup_withKey other]
    case installed =>
      intro settings
      rw [installation_withKey, installation_withKey]
      refine ⟨_, .apart fun left right _ name => ?_, rfl⟩
      exact Profile.Store.names_load_of_environment filledFirst filledSecond _ left right name
    case respects =>
      intro template path left right covers
      obtain rfl := covers.eq rfl
      exact ⟨rfl, Veil.covers_refl _ _⟩
    case spares => exact fun _ _ _ _ _ => rfl
  exact undisclosed.mono fun left right covers => covers.eq rfl

theorem undisclosed_storedKey (keepsFirst : Profile.Keeps veil.first first)
    (keepsSecond : Profile.Keeps veil.second second) (filledFirst : trimmed first ≠ "")
    (filledSecond : trimmed second ≠ "") {files : Tree} (covers : veil.Covers world.files files)
    (respects : (fetcherIn embedding world).Respects veil)
    (spared : ∀ invocation, readInvocation ⟨environment, world.files⟩ words = .ok invocation →
      ∀ path ∈ invocation.task.sources, path.place ≠ veil.place) :
    Transcript.Undisclosed veil.Covers (run embedding environment words world)
      (run embedding environment words { world with files := files }) := by
  apply undisclosed_run_of_covers words world covers (fun _ _ => rfl)
  case installed =>
    refine fun settings => ⟨_, .apart fun left right covers name => ?_, rfl⟩
    exact Profile.Store.names_load_of_keeps covers keepsFirst keepsSecond filledFirst filledSecond _
      _ name
  case respects => exact respects
  case spares =>
    intro invocation read path member here
    exact absurd here (spared invocation read path member)

theorem undisclosed_typedKey (filledFirst : trimmed first ≠ "") (filledSecond : trimmed second ≠ "")
    (wholeFirst : '\n' ∉ first.toList) (wholeSecond : '\n' ∉ second.toList)
    {invocation : Invocation} {name : String}
    (read : readInvocation ⟨environment, world.files⟩ words = .ok invocation)
    (task : invocation.task = .storeProfile name) (emptyLines : Nat) {rest : List Char}
    (ended : EndsLine rest) :
    let store := (installation embedding environment invocation.settings).application.store
    Transcript.Undisclosed (store.keyVeil name (trimmed first) (trimmed second)).Covers
      (run embedding environment words (typed emptyLines first rest world))
      (run embedding environment words (typed emptyLines second rest world)) := by
  intro store
  have carriedOut (key : String) :
      run embedding environment words (typed emptyLines key rest world) =
        .ofRun invocation.usage (runIn (storeProfile
          ((installation embedding environment invocation.settings).dispatcher invocation.settings)
          store name) (typed emptyLines key rest
            ((installation embedding environment invocation.settings).prepare invocation.settings
              world))) := by
    have carried := @run_carriedOut embedding environment words (typed emptyLines key rest world)
      invocation read
    rw [carried, Embedding.carryOut, task]
    rfl
  rw [carriedOut, carriedOut]
  obtain ⟨results, worlds⟩ := undisclosed_storeProfile
    ((installation embedding environment invocation.settings).dispatcher invocation.settings) store
    name filledFirst filledSecond wholeFirst wholeSecond emptyLines ended
    ((installation embedding environment invocation.settings).prepare invocation.settings world)
  exact Transcript.undisclosed_ofRun results worlds invocation.usage

/-- Which of two keys is in the environment, in the file of a profile or typed in at the question
for it shows in the key that a client is opened with and in the file that the key is stored in. -/
theorem run_undisclosed (filledFirst : trimmed first ≠ "") (filledSecond : trimmed second ≠ "")
    (wholeFirst : '\n' ∉ first.toList) (wholeSecond : '\n' ∉ second.toList) :
    Transcript.Undisclosed Eq
        (run (embedding.map fun given => given.withKey first)
          ((keyVariable, first) :: environment) words world)
        (run (embedding.map fun given => given.withKey second)
          ((keyVariable, second) :: environment) words world) ∧
      (∀ (veil : Veil) (files : Tree), Profile.Keeps veil.first first →
        Profile.Keeps veil.second second → veil.Covers world.files files →
        (fetcherIn embedding world).Respects veil →
        (∀ invocation, readInvocation ⟨environment, world.files⟩ words = .ok invocation →
          ∀ path ∈ invocation.task.sources, path.place ≠ veil.place) →
        Transcript.Undisclosed veil.Covers (run embedding environment words world)
          (run embedding environment words { world with files := files })) ∧
      ∀ (invocation : Invocation) (name : String) (emptyLines : Nat) (rest : List Char),
        readInvocation ⟨environment, world.files⟩ words = .ok invocation →
        invocation.task = .storeProfile name → EndsLine rest →
        let store := (installation embedding environment invocation.settings).application.store
        Transcript.Undisclosed (store.keyVeil name (trimmed first) (trimmed second)).Covers
          (run embedding environment words (typed emptyLines first rest world))
          (run embedding environment words (typed emptyLines second rest world)) := by
  refine ⟨?environment, ?stored, ?typed⟩
  case environment =>
    exact undisclosed_environmentKey embedding environment words world filledFirst filledSecond
  case stored =>
    intro veil files keepsFirst keepsSecond covers respects spared
    exact undisclosed_storedKey embedding environment words world keepsFirst keepsSecond filledFirst
      filledSecond covers respects spared
  case typed =>
    intro invocation name emptyLines rest read task ended
    exact undisclosed_typedKey embedding environment words world filledFirst filledSecond wholeFirst
      wholeSecond read task emptyLines ended

end Keys

def publishing : Embedding where
  application :=
    { store := ⟨.ofText "cfg"⟩
      client := some (Client.silent.withScript .publishGraph [.ok { schemaHash := "1" }])
      fetcher := some titlePageFetcher }

def publicationWords (file : String) : List String :=
  ["graph", "publish", "g", "--schema", file]

/-- A tree with a schema and a profile with a key. -/
def keyedTree (key : String) : Tree :=
  ⟨[(["schema.graphql"], .file (Utf8.encode "type Query".toList)), (["cfg"], .directory),
    (["cfg", "profiles"], .directory), (["cfg", "profiles", "default"], .directory),
    (["cfg", "profiles", "default", ".sensitive"],
      .file (Utf8.encode (Profile.Store.document key).toList))]⟩

theorem covers_keyedTree (first second : String) :
    (publishing.application.store.keyVeil "default" first second).Covers (keyedTree first)
      (keyedTree second) :=
  .cons (.same _) (.cons (.same _) (.cons (.same _) (.cons (.same _)
    (.cons (Veil.hides_mk _ _ _) .nil))))

theorem run_undisclosed_publication :
    (trimmed "k1" ≠ "" ∧ trimmed "k2" ≠ "" ∧ '\n' ∉ "k1".toList ∧ '\n' ∉ "k2".toList) ∧
      Transcript.Undisclosed Eq
        (run (some (publishing.withKey "k1")) [(keyVariable, "k1")]
          (publicationWords "schema.graphql") { files := keyedTree "k1" })
        (run (some (publishing.withKey "k2")) [(keyVariable, "k2")]
          (publicationWords "schema.graphql") { files := keyedTree "k1" }) ∧
      Transcript.Undisclosed (publishing.application.store.keyVeil "default" "k1" "k2").Covers
        (run (some publishing) [] (publicationWords "schema.graphql") { files := keyedTree "k1" })
        (run (some publishing) [] (publicationWords "schema.graphql")
          { files := keyedTree "k2" }) ∧
      Transcript.Undisclosed (publishing.application.store.keyVeil "default" "k1" "k2").Covers
        (run (some publishing) [] ["profile", "auth"] (typed 1 "k1" ['\n'] {}))
        (run (some publishing) [] ["profile", "auth"] (typed 1 "k2" ['\n'] {})) := by
  have filledFirst : trimmed "k1" ≠ "" := by decide
  have filledSecond : trimmed "k2" ≠ "" := by decide
  have wholeFirst : '\n' ∉ "k1".toList := by decide
  have wholeSecond : '\n' ∉ "k2".toList := by decide
  have publication := run_undisclosed (some publishing) [] (publicationWords "schema.graphql")
    { files := keyedTree "k1" } filledFirst filledSecond wholeFirst wholeSecond
  have storing := run_undisclosed (some publishing) [] ["profile", "auth"] {} filledFirst
    filledSecond wholeFirst wholeSecond
  refine ⟨⟨filledFirst, filledSecond, wholeFirst, wholeSecond⟩, publication.1, ?stored, ?typed⟩
  case stored =>
    have asked : (readInvocation ⟨[], keyedTree "k1"⟩
        (publicationWords "schema.graphql")).toOption.map Invocation.task =
          some (.onGraph "default" "g" (.publishGraph (.file (.ofText "schema.graphql")))) := by
      decide +kernel
    apply publication.2.1 (publishing.application.store.keyVeil "default" "k1" "k2")
      (keyedTree "k2") (Profile.keeps_document "k1") (Profile.keeps_document "k2")
      (covers_keyedTree "k1" "k2") (respects_titlePageFetcher _)
    intro invocation read path member
    rw [read] at asked
    rw [Option.some.inj asked] at member
    obtain rfl := List.mem_singleton.mp member
    decide
  case typed =>
    have asked : (readInvocation ⟨[], {}⟩ ["profile", "auth"]).toOption.map Invocation.task =
        some (.storeProfile "default") := by
      decide +kernel
    cases read : readInvocation ⟨[], {}⟩ ["profile", "auth"] with
    | error halt =>
        rw [read] at asked
        cases asked
    | ok invocation =>
        rw [read] at asked
        exact storing.2.2 invocation "default" 1 ['\n'] read (Option.some.inj asked)
          (.inr ⟨[], rfl⟩)

/-- A file is passed on that the command line names as a source, the file of a key as any other. -/
theorem not_undisclosed_publishedKey :
    let veil := publishing.application.store.keyVeil "default" "k1" "k2"
    (Profile.Keeps veil.first "k1" ∧ Profile.Keeps veil.second "k2" ∧
        veil.Covers (keyedTree "k1") (keyedTree "k2") ∧
        (fetcherIn (some publishing) {}).Respects veil) ∧
      ¬ Transcript.Undisclosed veil.Covers
        (run (some publishing) [] (publicationWords "cfg/profiles/default/.sensitive")
          { files := keyedTree "k1" })
        (run (some publishing) [] (publicationWords "cfg/profiles/default/.sensitive")
          { files := keyedTree "k2" }) := by
  refine ⟨⟨Profile.keeps_document "k1", Profile.keeps_document "k2", covers_keyedTree "k1" "k2",
    respects_titlePageFetcher _⟩, ?_⟩
  have first : (run (some publishing) [] (publicationWords "cfg/profiles/default/.sensitive")
      { files := keyedTree "k1" }).world.calls =
        [.client "default" "k1",
          .registry (.publishGraph { name := "g" } (Profile.Store.document "k1"))] := by
    decide +kernel
  have second : (run (some publishing) [] (publicationWords "cfg/profiles/default/.sensitive")
      { files := keyedTree "k2" }).world.calls =
        [.client "default" "k2",
          .registry (.publishGraph { name := "g" } (Profile.Store.document "k2"))] := by
    decide +kernel
  intro undisclosed
  have called := undisclosed.calls
  rw [first, second] at called
  have same := (List.forall₂_cons.mp (List.forall₂_cons.mp called).2).1
  exact absurd (Call.SameButKey.of_registry same) (by decide +kernel)

end GraphConsole.CommandLine
