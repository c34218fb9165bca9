import GraphConsole.Outcome.Output
import GraphConsole.Profile.Store
import GraphConsole.Service.World

/-! Commands on stored profiles. -/

namespace GraphConsole.Command

open GraphConsole.Service
open GraphConsole.Text

def listProfiles (store : Profile.Store) : Action Output := do
  let names ← Action.askFiles store.names
  return .profiles names

/-- Stores a key without the blanks around it; a blank key is refused. -/
def saveProfile (store : Profile.Store) (name apiKey : String) : Action Output := do
  let key := trimmed apiKey
  if key.isEmpty then
    Action.fail (.authenticationFailed name "the provided API key was empty")
  let path ← Action.onFiles (store.save name key)
  Action.info ("Saved API key for profile " ++ name ++ " to " ++ path.toText)
  return .emptySuccess

end GraphConsole.Command
