import GraphConsole.Profile.Store
import GraphConsole.Service.World

/-! An installation of the program: which services it has, and where its profiles are. -/

namespace GraphConsole.Service

/-- Services that an installation lacks are `none`. Where clients can be opened, `openings` are the
reactions to that; without any, each opening gives `client`. -/
structure Application where
  store : Profile.Store
  environmentKey : Option String := none
  client : Option Client := none
  openings : Script Client := []
  composer : Option (Script Registry.Composition) := none
  introspector : Option (Script String) := none
  fetcher : Option Fetcher := none

namespace Application

def lacking (what : String) : Failure :=
  .unclassified ("No " ++ what ++ " is configured for this installation")

def furnish (application : Application) (world : World) : World :=
  { world with
    openings := application.openings
    composer := application.composer.getD world.composer
    introspector := application.introspector.getD world.introspector
    fetcher := application.fetcher.getD world.fetcher }

def openClient (application : Application) (profile : String) : Action Unit := do
  match application.client with
  | none => Action.fail (lacking "registry client")
  | some usual =>
      let found ← Action.askFiles fun tree =>
        application.store.load application.environmentKey tree profile
      askFactory usual found.name found.apiKey

def need (service : Option α) (what : String) : Action Unit :=
  if service.isSome then pure () else Action.fail (lacking what)

def needComposer (application : Application) : Action Unit :=
  need application.composer "composition engine"

def needFetcher (application : Application) : Action Unit :=
  need application.fetcher "template fetcher"

def needIntrospector (application : Application) : Action Unit :=
  need application.introspector "introspection client"

end Application

end GraphConsole.Service
