import GraphConsole.CommandLine.Run

/-! The program itself. It looks at the files that the words of the command line name, runs on what
it has seen, and writes back what the run has changed. -/

namespace GraphConsole.Program

open GraphConsole.CommandLine
open GraphConsole.Files

def environmentNames : List String :=
  ["ROVER_FORMAT", "ROVER_LOG", "ROVER_CONFIG_HOME", "ROVER_API_KEY", "XDG_CONFIG_HOME", "HOME"]

def readEnvironment : IO (List (String × String)) := do
  let found ← environmentNames.mapM fun name => return (name, ← IO.getEnv name)
  return found.filterMap fun (name, value) => value.map fun value => (name, value)

/-- The texts in a word that may be paths: the word, and what follows an equals sign in it. -/
def candidates (word : String) : List String :=
  match Text.cutAt '=' word.toList with
  | none => [word]
  | some (_, value) =>
      let after := match Text.cutAt '=' value with
        | none => []
        | some (_, path) => [String.ofList (Text.trim path)]
      word :: String.ofList (Text.trim value) :: after

def lookAt (path : Path) : IO (Option Entry) := do
  let place := (← IO.currentDir) / path.toText
  if ← place.isDir then return some .directory
  if ← place.pathExists then
    try return some (.file (← IO.FS.readBinFile place).toList)
    catch _ => return some (.file [])
  return none

def observe (tree : Tree) (path : Path) : IO Tree := do
  let mut tree := tree
  for count in [1:path.parts.length + 1] do
    let part : Path := { path with parts := path.parts.take count }
    match tree.locate part, ← lookAt part with
    | .ok location, some entry => tree := tree.put location entry
    | _, _ => return tree
  return tree

partial def observeBelow (tree : Tree) (path : Path) : IO Tree := do
  let place := (← IO.currentDir) / path.toText
  let mut tree ← observe tree path
  if ← place.isDir then
    for entry in ← place.readDir do
      tree ← observeBelow tree (path.child entry.fileName)
  return tree

def locationText : Location → String
  | "/" :: names => "/" ++ Text.joined "/" names
  | names => Text.joined "/" names

def writeBack (before after : Tree) : IO Unit := do
  for (location, entry) in after.entries do
    if before.entries.lookup location != some entry then
      match entry with
      | .directory => IO.FS.createDirAll (locationText location)
      | .file octets => IO.FS.writeBinFile (locationText location) ⟨octets.toArray⟩

/-- Asks for a key until a line is not empty; gives all lines that were read. -/
partial def askForKey (input errors : IO.FS.Stream) (read : List Char) : IO (List Char) := do
  errors.putStr (String.ofList keyQuestion)
  errors.flush
  let line := (← input.getLine).toList
  if line.isEmpty || line != ['\n'] then return read ++ line
  askForKey input errors (read ++ line)

def prepareInput (task : Task) (input errors : IO.FS.Stream) : IO (List Char × Nat) := do
  match task with
  | .storeProfile _ =>
      let read ← askForKey input errors []
      return (read, (askKey (inputLines read)).written.length)
  | _ => return ([], 0)

def start (words : List String) : IO UInt32 := do
  let output ← IO.getStdout
  let errors ← IO.getStderr
  let environment ← readEnvironment
  let mut tree : Tree := {}
  for text in words.flatMap candidates ++ (environment.lookup "ROVER_CONFIG_HOME").toList do
    tree ← observe tree (.ofText text)
  let mut embedding : Option Embedding := none
  let mut prepared : List Char × Nat := ([], 0)
  match readInvocation ⟨environment, tree⟩ words with
  | .error _ => pure ()
  | .ok invocation =>
      let alone := standAlone invocation.settings environment
      embedding := some { alone with interactive := ← output.isTty }
      tree ← observeBelow tree alone.application.store.directory
      prepared ← prepareInput invocation.task (← IO.getStdin) errors
  let (input, shown) := prepared
  let transcript := run embedding environment words { files := tree, input := input }
  let world := transcript.world
  output.putStr (String.ofList world.output)
  errors.putStr (String.ofList (world.errors.drop shown))
  for url in world.launched do
    errors.putStrLn url
  match transcript.escaped with
  | some incident => errors.putStrLn (incident.name ++ ": " ++ incident.text)
  | none => pure ()
  writeBack tree world.files
  return UInt32.ofNat (transcript.exitCode % 256).toNat

end GraphConsole.Program

def main (words : List String) : IO UInt32 :=
  GraphConsole.Program.start words
