import GraphConsole.Proofs.Command.SchemaFiles
import GraphConsole.Proofs.CommandLine.Endings
import GraphConsole.Proofs.CommandLine.Sources
import GraphConsole.Proofs.Outcome.Documents

/-! Compositions of local schemas. The engine gets all of them or is not asked; whether its hints
are wanted has to do with nothing but what is told of them. -/

namespace GraphConsole.CommandLine

open GraphConsole.Files
open GraphConsole.Registry
open GraphConsole.Service
open GraphConsole.Text

/-- The text in a file: its octets in UTF-8, with a line feed for each end of a line. -/
def TextAt (tree : Tree) (path : Path) (text : String) : Prop :=
  ∃ octets s, tree.octets path = .ok octets ∧ Utf8.decode octets = .ok s ∧
    text = String.ofList (unifyNewlines s)

theorem textAt_iff_spells (tree : Tree) (path : Path) (text : String) :
    TextAt tree path text ↔ tree.Spells path text := by
  simp only [TextAt, Tree.Spells, Utf8.decode_eq_ok_iff]
  constructor
  · rintro ⟨octets, s, stored, rfl, same⟩
    exact ⟨s, stored, same⟩
  · rintro ⟨s, stored, same⟩
    exact ⟨_, s, stored, rfl, same⟩

/-- There are sources, and each name has a text in the file that was given for it at last. -/
def Readable (given : List (String × Path)) (tree : Tree) : Prop :=
  given ≠ [] ∧ ∀ name path, lastGiven given name = some path → ∃ text, TextAt tree path text

/-- A schema for each name, in the order in which the names came up: the text of the file that was
given for the name at last. -/
structure SchemasOf (given : List (String × Path)) (tree : Tree)
    (schemas : List (String × String)) : Prop where
  names : schemas.map Prod.fst = (given.map Prod.fst).eraseDups
  texts : ∀ name path, lastGiven given name = some path →
    ∃ schema, schemas.lookup name = some schema ∧ TextAt tree path schema

/-! Reading the sources. -/

section Reading

variable {tree : Tree} {sources : List (String × Path)} {schemas : List (String × String)}

theorem names_of_reads (all : List.Forall₂ (Command.Reads tree) sources schemas) :
    schemas.map Prod.fst = sources.map Prod.fst := by
  induction all with
  | nil => rfl
  | cons here _ induction => rw [List.map_cons, List.map_cons, here.1, induction]

theorem lookup_of_reads (all : List.Forall₂ (Command.Reads tree) sources schemas) {name : String}
    {path : Path} (found : sources.lookup name = some path) :
    ∃ schema, schemas.lookup name = some schema ∧ TextAt tree path schema := by
  induction all with
  | nil => cases found
  | @cons source schema _ _ here _ induction =>
      obtain ⟨first, there⟩ := source
      obtain ⟨second, text⟩ := schema
      obtain ⟨same, spelled⟩ := here
      dsimp only at same spelled
      subst same
      rw [List.lookup_cons] at found ⊢
      cases met : name == second with
      | true =>
          rw [met] at found
          cases found
          exact ⟨text, rfl, (textAt_iff_spells tree path text).mpr spelled⟩
      | false =>
          rw [met] at found
          exact induction found

theorem reported?_unreadableSchema (name : String) (path : Path) (trouble : Trouble) :
    ∃ failure, (Command.unreadableSchema name path trouble).reported? = some failure := by
  cases trouble with
  | system error there => exact ⟨_, rfl⟩
  | nulInPath => exact ⟨_, rfl⟩
  | notText broken => exact ⟨_, rfl⟩

variable {given : List (String × Path)}

/-- With every file read, all the schemas are there. -/
theorem schemasOf_of_readable (gathers : Gathers given sources) (readable : Readable given tree) :
    ∃ schemas, Command.schemasOf sources tree = .ok schemas ∧ SchemasOf given tree schemas := by
  have filled : sources ≠ [] := mt gathers.eq_nil_iff.mp readable.1
  rw [Command.schemasOf_of_ne_nil filled]
  rcases Command.reads_or_firstUnread tree sources with ⟨schemas, all⟩ |
    ⟨name, path, ⟨before, after, rfl, _⟩, unread⟩
  · refine ⟨schemas, Command.readSources_of_reads all, by rw [names_of_reads all, gathers.names],
      fun name path last => ?_⟩
    rw [← gathers.lasts] at last
    exact lookup_of_reads all last
  · have last := (gathers.mem_iff name path).mp (by simp)
    obtain ⟨text, found⟩ := readable.2 name path last
    exact absurd ((textAt_iff_spells tree path text).mp found) (unread text)

theorem schemasOf_of_unreadable (gathers : Gathers given sources)
    (unreadable : ¬ Readable given tree) :
    ∃ fault failure, Command.schemasOf sources tree = .error fault ∧
      fault.reported? = some failure := by
  by_cases filled : sources = []
  · exact ⟨.failure Command.noSources, Command.noSources, by rw [filled]; rfl, rfl⟩
  · rw [Command.schemasOf_of_ne_nil filled]
    rcases Command.reads_or_firstUnread tree sources with ⟨schemas, all⟩ | ⟨name, path, first⟩
    · refine absurd ⟨mt gathers.eq_nil_iff.mpr filled, fun name path last => ?_⟩ unreadable
      rw [← gathers.lasts] at last
      obtain ⟨schema, _, found⟩ := lookup_of_reads all last
      exact ⟨schema, found⟩
    · obtain ⟨trouble, _, ended⟩ := Command.readSources_of_firstUnread first
      obtain ⟨failure, reported⟩ := reported?_unreadableSchema name path trouble
      exact ⟨_, failure, ended, reported⟩

end Reading

/-! Asking the engine. -/

section Asking

variable {dispatcher : Dispatcher} {application : Application} {sources : List (String × Path)}
variable {reactions : Script Composition} {schemas : List (String × String)} {world : World}

def composeAction (application : Application) (sources : List (String × Path))
    (skipHints : Bool) : Action Output := do
  application.needComposer
  let schemas ← Command.readSubgraphSchemas sources
  Command.composeSupergraph schemas (!skipHints)

variable (configured : application.composer = some reactions) (skipHints : Bool)

include configured

theorem runIn_composeAction (world : World) :
    runIn (composeAction application sources skipHints) world =
      runIn (Command.readSubgraphSchemas sources >>= fun schemas =>
        Command.composeSupergraph schemas (!skipHints)) world := by
  have provided : application.needComposer = pure () := by
    rw [Application.needComposer, Application.need, configured]
    rfl
  rw [composeAction, provided]
  rfl

theorem runIn_composeAction_unread {fault : Fault}
    (failed : Command.schemasOf sources world.files = .error fault) :
    runIn (composeAction application sources skipHints) world = (.error fault, world) := by
  have read : runIn (Command.readSubgraphSchemas sources) world = (.error fault, world) := by
    rw [Command.readSubgraphSchemas, runIn_askFiles, failed]
  rw [runIn_composeAction configured]
  exact runIn_bind_error read

/-- The world in which the engine has been asked. -/
def asked (schemas : List (String × String)) (world : World) : World :=
  { world with calls := world.calls ++ [.compose schemas], composer := world.composer.advance }

theorem runIn_composeAction_read
    (read : Command.schemasOf sources world.files = .ok schemas) :
    runIn (composeAction application sources skipHints) world =
      (world.composer.reaction.map (Command.compositionOutput (!skipHints)),
        asked schemas world) := by
  have done : runIn (Command.readSubgraphSchemas sources) world = (.ok schemas, world) := by
    rw [Command.readSubgraphSchemas, runIn_askFiles, read]
  have answered := runIn_askComposer schemas world
  rw [runIn_composeAction configured, runIn_bind_ok done]
  cases reaction : world.composer.reaction with
  | error fault =>
      rw [reaction] at answered
      exact runIn_bind_error answered
  | ok composition =>
      rw [reaction] at answered
      exact runIn_bind_ok answered

end Asking

/-! Whole runs. -/

/-- How a command line ends that asks for a composition of some sources, behind the words for the
settings. -/
def composing (embedding : Embedding) (environment : List (String × String))
    (front texts : List String) (world : World) (skipHints : Bool) : Transcript :=
  run (some embedding) environment
    (front ++ "supergraph" :: "compose" :: composeWords texts skipHints) world

/-- The words for the settings are read as such, whatever comes behind the command. -/
def Opens (setting : Setting) (front : List String) (bound : Bound) : Prop :=
  ∀ words, readGlobals setting (front ++ "supergraph" :: words) = .ok (bound, "supergraph" :: words)

/-- The engine is asked once, with the schemas, if all of them can be read, and else the command
fails without it. -/
structure AllOrNothing (given : List (String × Path)) (before : World) (ended : Transcript) :
    Prop where
  read : Readable given before.files → ∃ schemas, SchemasOf given before.files schemas ∧
    ended.world.calls = before.calls ++ [.compose schemas]
  unread : ¬ Readable given before.files →
    ended.exitCode = 1 ∧ ended.escaped = none ∧ ended.world.calls = before.calls

/-- Two ends of one composition, with hints wanted and without. They differ in what is told of the
hints only. -/
structure HintsApart (given : List (String × Path)) (reaction : Reaction Composition)
    (format : Format) (before : World) (hinted bare : Transcript) : Prop where
  calls : bare.world.calls = hinted.world.calls
  files : bare.world.files = hinted.world.files
  exitCode : bare.exitCode = hinted.exitCode
  escaped : bare.escaped = hinted.escaped
  people : format = .plain → bare.world.output = hinted.world.output
  failed : (¬ Readable given before.files ∨ ∃ fault, reaction = .error fault) → bare = hinted
  scripts : format = .json → Readable given before.files →
    ∀ composition, reaction = .ok composition → ∃ text other document another,
      hinted.world.output = before.output ++ text ∧ Json.read .standard text = .ok document ∧
      bare.world.output = before.output ++ other ∧ Json.read .standard other = .ok another ∧
      document.at? ["data", "core_schema"] = some (.string composition.supergraph) ∧
      another.at? ["data"] = some (.object
        [("core_schema", .string composition.supergraph), ("success", .bool true)])

/-- The world in which the composition begins. -/
def begun (embedding : Embedding) (environment : List (String × String)) (bound : Bound)
    (world : World) : World :=
  embedding.prepare (settingsOf environment bound) world

section Runs

variable {embedding : Embedding} {environment : List (String × String)} {world : World}
variable {front texts : List String} {bound : Bound} {sources : List (String × Path)}
variable {reactions : Script Composition} {schemas : List (String × String)}

variable (configured : embedding.application.composer = some reactions)
variable (opened : Opens ⟨environment, world.files⟩ front bound)
variable (parsed : parseSources texts = .ok sources)

include opened parsed

theorem composing_eq (skipHints : Bool) :
    composing embedding environment front texts world skipHints =
      .ofRun composeForm.usage
        (runIn (Step.conclude (embedding.dispatcher (settingsOf environment bound))
          (composeAction embedding.application sources skipHints))
          (begun embedding environment bound world)) :=
  run_carriedOut (readInvocation_compose opened parsed skipHints)

include configured

theorem composing_unread {fault : Fault} {failure : Failure}
    (failed : Command.schemasOf sources world.files = .error fault)
    (reported : fault.reported? = some failure) (skipHints : Bool) :
    composing embedding environment front texts world skipHints =
      ⟨1, wrote ((embedding.dispatcher (settingsOf environment bound)).shown (.failure failure))
        (begun embedding environment bound world), none⟩ := by
  have begins : Command.schemasOf sources (begun embedding environment bound world).files =
    .error fault := failed
  have run := runIn_composeAction_unread configured skipHints begins
  rw [composing_eq opened parsed, Step.runIn_conclude_error run, Step.endingOf, Step.toldOf,
    reported]
  rfl

omit opened parsed in
theorem composer_begun : (begun embedding environment bound world).composer = reactions := by
  rw [begun, Embedding.prepare, Application.furnish, configured]
  rfl

theorem composing_failed {fault : Fault}
    (read : Command.schemasOf sources world.files = .ok schemas)
    (raised : reactions.reaction = .error fault) :
    ∃ code emission escaped, ∀ skipHints,
      composing embedding environment front texts world skipHints =
        ⟨code, wrote emission (asked schemas (begun embedding environment bound world)),
          escaped⟩ := by
  obtain ⟨emission, escaped, same⟩ := Transcript.ofEnding_endingOf
    (embedding.dispatcher (settingsOf environment bound)) composeForm.usage fault
  refine ⟨fault.status, emission, escaped, fun skipHints => ?_⟩
  have begins : Command.schemasOf sources (begun embedding environment bound world).files =
    .ok schemas := read
  have run := runIn_composeAction_read configured skipHints begins
  rw [composer_begun configured, raised] at run
  rw [composing_eq opened parsed, Step.runIn_conclude_error run]
  exact same _

theorem composing_done {composition : Composition}
    (read : Command.schemasOf sources world.files = .ok schemas)
    (composed : reactions.reaction = .ok composition) (skipHints : Bool) :
    composing embedding environment front texts world skipHints =
      ⟨0, wrote ((embedding.dispatcher (settingsOf environment bound)).shown
          (.success (.known (Command.compositionOutput (!skipHints) composition))))
        (asked schemas (begun embedding environment bound world)), none⟩ := by
  have begins : Command.schemasOf sources (begun embedding environment bound world).files =
    .ok schemas := read
  have run := runIn_composeAction_read configured skipHints begins
  rw [composer_begun configured, composed] at run
  rw [composing_eq opened parsed, Step.runIn_conclude_ok run]
  rfl

end Runs

/-! What is shown of a composition. -/

theorem hintsApart_refl {given : List (String × Path)} {reaction : Reaction Composition}
    {format : Format} {before : World} (ended : Transcript)
    (apart : Readable given before.files → ∀ composition, reaction ≠ .ok composition) :
    HintsApart given reaction format before ended ended where
  calls := rfl
  files := rfl
  exitCode := rfl
  escaped := rfl
  people _ := rfl
  failed _ := rfl
  scripts _ read composition composed := absurd composed (apart read composition)

section Showing

variable {dispatcher : Dispatcher}

/-- A document on standard output, as people see it. -/
theorem output_shown_plain (plain : dispatcher.format = .plain) {output : Output}
    {path : List String} {text : String} (carries : output.Carries path text) :
    (dispatcher.shown (.success (.known output))).output =
      if text = "" then [] else dispatcher.writtenBody text.toList := by
  rw [Dispatcher.shown_plain plain, dispatcher.output_of_body carries.body]

/-- A document on standard output, as scripts read it. -/
theorem document_shown (json : dispatcher.format = .json) {output : Output} {path : List String}
    {text : String} (carries : output.Carries path text) :
    Json.read .standard (dispatcher.shown (.success (.known output))).output =
      .ok output.envelope.toJson := by
  rw [Dispatcher.shown_json json rfl output.whole_envelope]
  exact carries.read_line

theorem hintsApart_composed (dispatcher : Dispatcher) (composition : Composition)
    {given : List (String × Path)} {before after : World} (kept : after.output = before.output)
    (readable : Readable given before.files) :
    HintsApart given (.ok composition) dispatcher.format before
      ⟨0, wrote (dispatcher.shown (.success (.known (.compositionResult composition)))) after, none⟩
      ⟨0, wrote (dispatcher.shown
        (.success (.known (.supergraphSchema composition.supergraph)))) after, none⟩ := by
  have hinted := Output.Carries.compositionResult composition
  have bare := Output.Carries.supergraphSchema composition.supergraph
  constructor
  case calls => simp only [wrote]
  case files => simp only [wrote]
  case exitCode => rfl
  case escaped => rfl
  case people =>
    intro plain
    simp only [wrote, output_shown_plain plain hinted, output_shown_plain plain bare]
  case failed =>
    rintro (unreadable | ⟨fault, raised⟩)
    · exact absurd readable unreadable
    · cases raised
  case scripts =>
    rintro json _ _ ⟨rfl⟩
    refine ⟨_, _, _, _, ?_, document_shown json hinted, ?_, document_shown json bare,
      hinted.envelope_at?, rfl⟩
    · rw [wrote, kept]
    · rw [wrote, kept]

end Showing

/-- Whatever the sources, the files and the engine are, the composition is all or nothing, and hints
make no difference but to what is told of them. -/
theorem composing_allOrNothing (embedding : Embedding) {reactions : Script Composition}
    (configured : embedding.application.composer = some reactions)
    (environment : List (String × String)) (world : World) {front : List String} {bound : Bound}
    (opened : Opens ⟨environment, world.files⟩ front bound) {texts : List String}
    {given : List (String × Path)} (gives : List.Forall₂ GivesSource texts given) :
    (∀ skipHints, AllOrNothing given world
      (composing embedding environment front texts world skipHints)) ∧
    HintsApart given reactions.reaction (settingsOf environment bound).format world
      (composing embedding environment front texts world false)
      (composing embedding environment front texts world true) := by
  obtain ⟨sources, parsed, gathers⟩ := parseSources_of_gives gives
  by_cases readable : Readable given world.files
  · obtain ⟨schemas, read, all⟩ := schemasOf_of_readable gathers readable
    have once {ended : Transcript}
        (called : ended.world.calls = world.calls ++ [.compose schemas]) :
        AllOrNothing given world ended :=
      ⟨fun _ => ⟨schemas, all, called⟩, fun unreadable => absurd readable unreadable⟩
    cases reaction : reactions.reaction with
    | error fault =>
        obtain ⟨code, emission, escaped, same⟩ :=
          composing_failed configured opened parsed read reaction
        simp only [same]
        exact ⟨fun _ => once rfl, hintsApart_refl _ fun _ _ => nofun⟩
    | ok composition =>
        have kept : (asked schemas (begun embedding environment bound world)).output =
          world.output := rfl
        simp only [composing_done configured opened parsed read reaction]
        exact ⟨fun _ => once rfl, hintsApart_composed
          (embedding.dispatcher (settingsOf environment bound)) composition kept readable⟩
  · obtain ⟨fault, failure, failed, reported⟩ := schemasOf_of_unreadable gathers readable
    simp only [composing_unread configured opened parsed failed reported]
    exact ⟨fun _ => ⟨fun read => absurd read readable, fun _ => ⟨rfl, rfl, rfl⟩⟩,
      hintsApart_refl _ fun read => absurd read readable⟩

def composer : Embedding where
  application :=
    { store := ⟨.ofText "config"⟩
      composer := some [.ok Dispatcher.hintedComposition] }

/-- Files with line ends of three kinds. -/
def drafts : World where
  files := ⟨[(["a.graphql"], .file [65, 13, 10, 65, 13]), (["b.graphql"], .file [66, 10])]⟩

theorem composing_allOrNothing_drafts :
    let texts := ["x = b.graphql", "y=b.graphql", "x=a.graphql "]
    composer.application.composer = some [.ok Dispatcher.hintedComposition] ∧
      ∃ bound given, Opens ⟨[], drafts.files⟩ ["--format", "json"] bound ∧
        List.Forall₂ GivesSource texts given ∧
        (∀ skipHints, AllOrNothing given drafts
          (composing composer [] ["--format", "json"] texts drafts skipHints)) ∧
        HintsApart given (.ok Dispatcher.hintedComposition) (settingsOf [] bound).format drafts
          (composing composer [] ["--format", "json"] texts drafts false)
          (composing composer [] ["--format", "json"] texts drafts true) ∧
        (composing composer [] ["--format", "json"] texts drafts true).world.calls =
          [.compose [("x", "A\nA\n"), ("y", "B\n")]] := by
  intro texts
  have opened : Opens ⟨[], drafts.files⟩ ["--format", "json"] _ := fun _ => rfl
  have gives : List.Forall₂ GivesSource texts _ :=
    .cons (.intro (.intro "x ".toList " b.graphql".toList (by decide) (by decide))
      (by decide) (by decide)) <|
    .cons (.intro (.intro "y".toList "b.graphql".toList (by decide) (by decide))
      (by decide) (by decide)) <|
    .cons (.intro (.intro "x".toList "a.graphql ".toList (by decide) (by decide))
      (by decide) (by decide)) .nil
  obtain ⟨once, apart⟩ := composing_allOrNothing composer rfl [] drafts opened gives
  exact ⟨rfl, _, _, opened, gives, once, apart, by decide +kernel⟩

end GraphConsole.CommandLine
