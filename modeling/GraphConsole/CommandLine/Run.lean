import GraphConsole.Command.Catalog
import GraphConsole.Command.Composition
import GraphConsole.Command.Credentials
import GraphConsole.Command.Schema
import GraphConsole.Command.Variant
import GraphConsole.CommandLine.Invocation
import GraphConsole.CommandLine.Prompt
import GraphConsole.Console.Dispatcher
import GraphConsole.Service.Application

/-! Carrying out an invocation, from the words of the command line to an exit code. -/

namespace GraphConsole.CommandLine

open GraphConsole.Files
open GraphConsole.Registry
open GraphConsole.Service
open GraphConsole.Text

def readSource : Source → Action String
  | .file path => Action.askFiles fun tree =>
      (tree.text path).mapError fun trouble => .incident trouble.toIncident
  | .standardInput => do return String.ofList (← Action.takeInput)

def openGraph (application : Application) (profile reference : String) : Action GraphRef := do
  application.openClient profile
  Action.ofExcept ((GraphRef.parse reference).mapError Fault.failure)

def graphAction (graph : GraphRef) : GraphTask → Action Output
  | .fetchGraph => Command.fetchGraph graph
  | .publishGraph schema => do Command.publishGraph graph (← readSource schema)
  | .checkGraph schema background => do
      Command.checkGraph graph (← readSource schema) background
  | .listSubgraphs => Command.listSubgraphs graph
  | .fetchSubgraph name => Command.fetchSubgraph graph name
  | .publishSubgraph name schema routingUrl => do
      Command.publishSubgraph graph name (← readSource schema) routingUrl
  | .fetchSupergraph => Command.fetchSupergraph graph
  | .fetchReadme => Command.fetchReadme graph
  | .publishReadme file => do Command.publishReadme graph (← readSource file)
  | .describeContract => Command.describeContract graph
  | .publishContract sourceVariant includeTags excludeTags =>
      Command.publishContract graph sourceVariant includeTags excludeTags

/-- A deletion opens a client of its own, also after a preview. -/
def deletionAction (application : Application) (profile reference name : String)
    (dryRun : Bool) : Action Output := do
  let graph ← openGraph application profile reference
  Command.deleteSubgraph graph name dryRun

/-- How a run ends before its last outcome has been shown, or after it. -/
inductive Ending
  | exit (code : Nat)
  | fault (fault : Fault)

abbrev Step := ExceptT Ending (StateM World)

def wrote (emission : Emission) (world : World) : World :=
  { world with
    output := world.output ++ emission.output
    errors := world.errors ++ emission.errors }

namespace Step

def finish (code : Nat) : Step α :=
  throw (.exit code)

def fail (fault : Fault) : Step α :=
  throw (.fault fault)

def present (dispatcher : Dispatcher) (action : Action Output) (emitSuccess : Bool) : Step Nat :=
  ExceptT.mk fun world =>
    let (result, world) := action.run.run world
    match dispatcher.run (result.map Answer.known) emitSuccess with
    | .error fault => (.error (.fault fault), world)
    | .ok (code, emission) => (.ok code, wrote emission world)

def conclude (dispatcher : Dispatcher) (action : Action Output) : Step Unit := do
  finish (← present dispatcher action true)

def attempt (dispatcher : Dispatcher) (action : Action Output) (emitSuccess : Bool) :
    Step Unit := do
  let code ← present dispatcher action emitSuccess
  if code != 0 then finish code

def ask (question : List (List Char) → Asked α) : Step (Option α) := do
  let input := (← get).input
  let asked := question (inputLines input)
  modify fun world => wrote { errors := asked.written } { world with
    input := dropLines asked.read input }
  return asked.answer

end Step

open Step

def storeProfile (dispatcher : Dispatcher) (store : Profile.Store) (name : String) :
    Step Unit := do
  match ← ask askKey with
  | some key => conclude dispatcher (Command.saveProfile store name (String.ofList key))
  | none =>
      modify (wrote { errors := ['\n'] })
      fail (.refusal .noAnswer)

def cancelled (name : String) : Action Output := do
  Action.info ("Deletion of subgraph " ++ name ++ " was cancelled")
  return .emptySuccess

def askConsent (dispatcher : Dispatcher) (name : String) : Step Unit := do
  match ← ask askConfirmation with
  | some true => return ()
  | some false => conclude dispatcher (cancelled name)
  | none => fail (.refusal .noAnswer)

/-- Without a confirmation in advance, a preview and a question come before the deletion. JSON
output has one envelope only, so that the preview's success is not shown there. -/
def deleteSubgraph (dispatcher : Dispatcher) (application : Application)
    (profile reference name : String) (confirmed : Bool) : Step Unit := do
  unless confirmed do
    attempt dispatcher (deletionAction application profile reference name true)
      (dispatcher.format != .json)
    askConsent dispatcher name
  conclude dispatcher (deletionAction application profile reference name false)

def perform (dispatcher : Dispatcher) (application : Application) : Task → Step Unit
  | .listDocs => conclude dispatcher Command.listDocs
  | .openDocs slug => conclude dispatcher (Command.openDocs slug)
  | .explain code => conclude dispatcher (Command.explain code)
  | .listProfiles => conclude dispatcher (Command.listProfiles application.store)
  | .storeProfile name => storeProfile dispatcher application.store name
  | .listTemplates language => conclude dispatcher (Command.listTemplates language)
  | .useTemplate id path => conclude dispatcher do
      application.needFetcher
      Command.useTemplate id path
  | .introspect endpoint headers => conclude dispatcher do
      application.needIntrospector
      Command.introspect endpoint headers
  | .compose sources skipHints => conclude dispatcher do
      application.needComposer
      let schemas ← Command.readSubgraphSchemas sources
      Command.composeSupergraph schemas (!skipHints)
  | .onGraph profile reference task => conclude dispatcher do
      let graph ← openGraph application profile reference
      graphAction graph task
  | .deleteSubgraph profile reference name confirmed =>
      deleteSubgraph dispatcher application profile reference name confirmed

/-- Services and profiles that are given from outside, and whether someone looks on. -/
structure Embedding where
  application : Application
  interactive : Bool := false

/-- The end of a run: its exit code, the world it leaves, and an incident that nobody dealt
with. -/
structure Transcript where
  exitCode : Int
  world : World
  escaped : Option Incident := none

namespace Transcript

def failing (code : Int) (world : World) (message : List Char) : Transcript where
  exitCode := code
  world := { world with errors := world.errors ++ message }

def errorLine (message : String) : List Char :=
  ("Error: " ++ message ++ "\n").toList

def usageText (usage : Usage) (message : String) : List Char :=
  (usage.toText ++ usage.hint).toList ++ errorLine message

def ofHalt (world : World) : Halt → Transcript
  | .misuse (some usage) message => failing 2 world (usageText usage message)
  | .misuse none message => failing 2 world (errorLine message)
  | .tell text => ⟨0, { world with output := world.output ++ text.toList }, none⟩
  | .escape incident => ⟨1, world, some incident⟩

def leaving (world : World) (operands : List Json) : Transcript :=
  match operands, operands.head?.bind Json.number? with
  | [], _ => ⟨0, world, none⟩
  | [.null], _ => ⟨0, world, none⟩
  | [_], some code => ⟨code, world, none⟩
  | operands, _ =>
      let words := Wording.listed operands ++ ['\n']
      ⟨1, { world with output := world.output ++ words }, none⟩

def ofFault (usage : Usage) (world : World) : Fault → Transcript
  | .refusal ⟨.usage, _, message⟩ => failing 2 world (usageText usage message)
  | .refusal ⟨.value, _, message⟩ =>
      failing 2 world (usageText usage ("Invalid value: " ++ message))
  | .refusal ⟨.plain, _, message⟩ => failing 1 world (errorLine message)
  | .refusal ⟨.abort, _, _⟩ => failing 1 world "Aborted!\n".toList
  | .interrupt request =>
      if request.isOneOf ["SystemExit"] then leaving world request.operands
      else if request.isOneOf ["KeyboardInterrupt"] then
        failing 1 world "\nAborted!\n".toList
      else ⟨1, world, some request⟩
  | .failure failure => ⟨1, world, some ⟨failure.name, [.string failure.message], []⟩⟩
  | .incident incident => ⟨1, world, some incident⟩

def ofEnding (usage : Usage) (world : World) : Ending → Transcript
  | .exit code => ⟨code, world, none⟩
  | .fault fault => ofFault usage world fault

def ofRun (usage : Usage) : Except Ending Unit × World → Transcript
  | (.ok (), world) => ⟨0, world, none⟩
  | (.error ending, world) => ofEnding usage world ending

end Transcript

def standAlone (settings : Settings) (environment : List (String × String)) : Embedding where
  application :=
    { store := ⟨settings.configHome⟩, environmentKey := environment.lookup "ROVER_API_KEY" }

def installation (embedding : Option Embedding) (environment : List (String × String))
    (settings : Settings) : Embedding :=
  embedding.getD (standAlone settings environment)

namespace Embedding

def dispatcher (embedding : Embedding) (settings : Settings) : Dispatcher where
  format := settings.format
  interactive := embedding.interactive

def prepare (embedding : Embedding) (settings : Settings) (world : World) : World :=
  embedding.application.furnish
    { world with logThreshold := LogLevel.threshold settings.logLevel }

def carryOut (embedding : Embedding) (invocation : Invocation) (world : World) :
    Except Ending Unit × World :=
  (perform (embedding.dispatcher invocation.settings) embedding.application
    invocation.task).run.run (embedding.prepare invocation.settings world)

end Embedding

def run (embedding : Option Embedding) (environment : List (String × String))
    (words : List String) (world : World) : Transcript :=
  match readInvocation ⟨environment, world.files⟩ words with
  | .error halt => .ofHalt world halt
  | .ok invocation =>
      .ofRun invocation.usage
        ((installation embedding environment invocation.settings).carryOut invocation world)

end GraphConsole.CommandLine
