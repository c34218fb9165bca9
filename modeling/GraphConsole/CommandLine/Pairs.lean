import GraphConsole.Entries
import GraphConsole.Files.Path
import GraphConsole.Text.Blank
import GraphConsole.Text.Lines

/-! Options that name something and give it a value, such as request headers and schema sources. -/

namespace GraphConsole.CommandLine

open GraphConsole.Files
open GraphConsole.Text

/-- A header in the form `name: value`; the name must not be blank. -/
def header? (text : String) : Option (String × String) :=
  match cutAt ':' text.toList with
  | none => none
  | some (name, value) =>
      if allBlank name then none
      else some (String.ofList (trim name), String.ofList (trim value))

/-- A source in the form `name=path`; neither part must be blank. -/
def source? (text : String) : Option (String × Path) :=
  match cutAt '=' text.toList with
  | none => none
  | some (name, path) =>
      if allBlank name || allBlank path then none
      else some (String.ofList (trim name), Path.ofText (String.ofList (trim path)))

/-- The pairs that some texts give, the last value of a name in the place of its first; or the
first text that gives none. -/
def collectPairs (pair? : String → Option (String × α)) :
    List (String × α) → List String → Except String (List (String × α))
  | pairs, [] => .ok pairs
  | pairs, text :: rest =>
      match pair? text with
      | none => .error text
      | some (name, value) => collectPairs pair? (Entries.put name value pairs) rest

def complaint (text form : String) : String :=
  "'" ++ text ++ "' is not in the format '" ++ form ++ "'"

def parseHeaders (texts : List String) : Except String (List (String × String)) :=
  (collectPairs header? [] texts).mapError fun text => complaint text "Name: Value"

def parseSources (texts : List String) : Except String (List (String × Path)) :=
  (collectPairs source? [] texts).mapError fun text => complaint text "NAME=PATH"

end GraphConsole.CommandLine
