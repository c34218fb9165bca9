/-! Short names for pages of the documentation. -/

namespace GraphConsole.Documentation

structure Shortlink where
  slug : String
  description : String
  url : String
deriving DecidableEq, Repr

def rootUrl : String := "https://www.apollographql.com/docs/rover"

def shortlinks : List Shortlink := [
  ⟨"api-keys", "Understanding Apollo's API Keys", "https://go.apollo.dev/r/api-keys"⟩,
  ⟨"contributing", "Contributing to Rover", rootUrl ++ "/contributing"⟩,
  ⟨"docs", "Rover's Documentation Homepage", rootUrl⟩,
  ⟨"migration", "Migrate from the Apollo CLI to Rover", rootUrl ++ "/migration"⟩,
  ⟨"start", "Getting Started with Rover", rootUrl ++ "/getting-started"⟩,
  ⟨"template", "Learn how to create new projects from templates",
    rootUrl ++ "/commands/template"⟩]

def descriptions : List (String × String) :=
  shortlinks.map fun link => (link.slug, link.description)

def url? (slug : String) : Option String :=
  (shortlinks.find? fun link => link.slug == slug).map Shortlink.url

end GraphConsole.Documentation
