import GraphConsole.Documentation
import GraphConsole.Outcome.Output
import GraphConsole.Service.World

/-! Commands that need no registry: documentation, explanations of error codes, and templates. -/

namespace GraphConsole.Command

open GraphConsole.Files
open GraphConsole.Registry
open GraphConsole.Service

def listDocs : Action Output :=
  return .docsList Documentation.descriptions

def unknownSlug (slug : String) : Failure :=
  .unclassified ("\"" ++ slug ++ "\" is not a known documentation shortlink. "
    ++ "Run `rover docs list` to see the available slugs.")

def openDocs (slug : String) : Action Output := do
  match Documentation.url? slug with
  | some url =>
      launch url
      return .emptySuccess
  | none => Action.fail (unknownSlug slug)

/-- The explanation of a code under its canonical spelling. -/
def explanationOf (code : String) : Except Failure String :=
  match Failure.Kind.ofCode? code with
  | some kind => .ok ("**" ++ Failure.Kind.canonical code ++ "**\n\n" ++ kind.explanation)
  | none => .error (.unknownErrorCode code)

def explain (code : String) : Action Output :=
  match explanationOf code with
  | .ok text => return .errorExplanation text
  | .error failure => Action.fail failure

def templatesFor (language : Option Language) : Except Failure (List Template) :=
  match Template.forLanguage language with
  | [] => .error (.unclassified "No templates matched the provided filters")
  | templates => .ok templates

def listTemplates (language : Option Language) : Action Output :=
  match templatesFor language with
  | .ok templates => return .templateList templates
  | .error failure => Action.fail failure

def templateOf (id : String) : Except Failure Template :=
  match Template.find? id with
  | some template => .ok template
  | none => .error (.templateNotFound id)

/-- Whether there is anything at a path that a new project could spoil. -/
def isOccupied (path : Path) (tree : Tree) : Except Fault Bool :=
  match tree.inspect path with
  | .error trouble => .error (.incident trouble.toIncident)
  | .ok none => .ok false
  | .ok (some (.file _)) => .ok true
  | .ok (some .directory) => .ok (!tree.isEmptyAt path)

def occupied (path : Path) : Failure :=
  .unclassified ("Cannot create a new project because " ++ path.toText
    ++ " already exists and is not empty")

/-- Makes a project from a template where there is nothing yet, or an empty directory. -/
def useTemplate (id : String) (path : Path) : Action Output := do
  match templateOf id with
  | .error failure => Action.fail failure
  | .ok template =>
      if ← Action.askFiles (isOccupied path) then Action.fail (occupied path)
      askFetcher template path
      return .templateUse template path

end GraphConsole.Command
