import GraphConsole.Console.Log
import GraphConsole.Files.Tree
import GraphConsole.Registry.Template
import GraphConsole.Service.Registry

/-! The world that commands act on, and the actions themselves: each either has a result or ends
with a fault, and leaves a changed world in both cases. -/

namespace GraphConsole.Service

open GraphConsole.Files
open GraphConsole.Registry

inductive Call
  | client (profile apiKey : String)
  | registry (request : Request)
  | introspect (endpoint : String) (headers : List (String × String))
  | compose (subgraphs : List (String × String))
  | fetchTemplate (id : String) (path : Path)
deriving DecidableEq, Repr

abbrev Fetcher := Template → Path → Tree → Except Fault Unit × Tree

/-- A fetcher that only writes a title page. -/
def titlePageFetcher : Fetcher := fun template path tree =>
  match tree.ensureDirectories path with
  | (.error trouble, tree) => (.error (.incident trouble.toIncident), tree)
  | (.ok (), tree) =>
      match tree.writeText (path.child "README.md") ("# " ++ template.title ++ "\n") with
      | .error trouble => (.error (.incident trouble.toIncident), tree)
      | .ok tree => (.ok (), tree)

structure World where
  files : Tree := {}
  calls : List Call := []
  launched : List String := []
  openings : Script Client := []
  client : Client := .silent
  composer : Script Composition := []
  introspector : Script String := []
  fetcher : Fetcher := fun _ _ tree => (.ok (), tree)
  input : List Char := []
  output : List Char := []
  errors : List Char := []
  logThreshold : Nat := 30

abbrev Action := ExceptT Fault (StateM World)

namespace Action

def fail (failure : Failure) : Action α :=
  throw (.failure failure)

def ofExcept : Except Fault α → Action α
  | .ok value => pure value
  | .error fault => throw fault

/-- A step that changes the files and may fail half-way. -/
def onFiles (step : Tree → Except Fault α × Tree) : Action α :=
  ExceptT.mk fun world =>
    let (result, files) := step world.files
    (result, { world with files := files })

def askFiles (question : Tree → Except Fault α) : Action α :=
  ExceptT.mk fun world => (question world.files, world)

def tell (call : Call) : Action Unit :=
  modify fun world => { world with calls := world.calls ++ [call] }

def takeInput : Action (List Char) :=
  modifyGet fun world => (world.input, { world with input := [] })

def react (script : Script α) : Action α :=
  ofExcept script.reaction

def info (message : String) : Action Unit :=
  modify fun world =>
    if world.logThreshold ≤ 20 then
      let record : Log.Record := ⟨"rover", 20, "INFO", message⟩
      { world with errors := world.errors ++ record.onScreen Log.plainScreen }
    else world

/-- A lost connection or a timeout becomes a failure that names the operation. -/
def during (operation : String) (graph : Option GraphRef) (action : Action α) : Action α :=
  tryCatch action fun fault =>
    match fault with
    | .incident unforeseen =>
        if unforeseen.isTransport then fail (.transport operation fault.reason graph)
        else throw fault
    | _ => throw fault

end Action

open GraphConsole.Service.Action

/-- Opens a client for a profile, which comes into use and reacts from the beginning of its script;
it is the usual one unless the openings have reactions of their own. -/
def askFactory (usual : Client) (profile apiKey : String) : Action Unit := do
  tell (.client profile apiKey)
  let script := (← get).openings
  modify fun world => { world with openings := script.advance }
  let client ← react (if script.isEmpty then [.ok usual] else script)
  modify fun world => { world with client := client }

def askRegistry (request : Request) : Action request.method.Answer := do
  tell (.registry request)
  let script := (← get).client.script request.method
  modify fun world => { world with client := world.client.advance request.method }
  react script

def askComposer (subgraphs : List (String × String)) : Action Composition := do
  tell (.compose subgraphs)
  let script := (← get).composer
  modify fun world => { world with composer := script.advance }
  react script

def askIntrospector (endpoint : String) (headers : List (String × String)) : Action String := do
  tell (.introspect endpoint headers)
  let script := (← get).introspector
  modify fun world => { world with introspector := script.advance }
  react script

def askFetcher (template : Template) (path : Path) : Action Unit := do
  tell (.fetchTemplate template.id path)
  let fetcher := (← get).fetcher
  onFiles (fetcher template path)

def launch (url : String) : Action Unit :=
  modify fun world => { world with launched := world.launched ++ [url] }

end GraphConsole.Service
