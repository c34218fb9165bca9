import GraphConsole.Failure.Fault
import GraphConsole.Files.Tree
import GraphConsole.Json.Printer
import GraphConsole.Json.Reader

/-! Profiles: named API keys, each in a file of its own below the configuration home. A key in the
environment comes before all stored ones. -/

namespace GraphConsole

open GraphConsole.Files
open GraphConsole.Text

structure Profile where
  name : String
  apiKey : String
deriving DecidableEq, Repr

namespace Profile

def defaultName : String := "default"

def toText (profile : Profile) : String :=
  "Profile(name=" ++ quoted profile.name ++ ", api_key='****')"

/-- A name is one part of a path, and none with a meaning of its own. -/
def validName (name : String) : Bool :=
  !(name == "" || name == "." || name == ".." || name.toList.contains '/'
    || name.toList.contains '\\')

def unreadable (name : String) : Json.Refusal → Fault
  | .malformed =>
      .failure (.authenticationFailed name "the stored credentials could not be read")
  | .tooDeep .array =>
      .incident ⟨"RecursionError", [.string ("maximum recursion depth exceeded while decoding a "
        ++ "JSON array from a unicode string")], []⟩
  | .tooDeep .object =>
      .incident ⟨"RecursionError", [.string ("maximum recursion depth exceeded while decoding a "
        ++ "JSON object from a unicode string")], []⟩
  | .integerTooLong digits =>
      .incident ⟨"ValueError", [.string ("Exceeds the limit (4300 digits) for integer string "
        ++ "conversion: value has " ++ natText digits ++ " digits; use "
        ++ "sys.set_int_max_str_digits() to increase the limit")], []⟩

def keyOf (name : String) (document : Json) : Except Fault String :=
  match document.field? "api_key" with
  | some (.string key) =>
      let key := trimmed key
      if key.isEmpty then .error (.failure (.noKeyFound name)) else .ok key
  | _ => .error (.failure (.noKeyFound name))

structure Store where
  configHome : Path
deriving DecidableEq, Repr

namespace Store

def directory (store : Store) : Path :=
  store.configHome.child "profiles"

def profileDirectory (store : Store) (name : String) : Except Failure Path :=
  if validName name then .ok (store.directory.child name) else .error (.profileNotFound name)

def sensitiveFile (directory : Path) : Path :=
  directory.child ".sensitive"

def names (store : Store) (tree : Tree) : Except Fault (List String) :=
  match tree.isDirectory store.directory with
  | .error trouble => .error (.incident trouble.toIncident)
  | .ok false => .ok []
  | .ok true =>
      let directories := (tree.names store.directory).filter fun (_, entry) => entry = .directory
      .ok ((directories.map Prod.fst).mergeSort fun a b => decide (a ≤ b))

def storedKey (name : String) (tree : Tree) (directory : Path) : Except Fault String :=
  match tree.text (sensitiveFile directory) with
  | .error (.system .notFound _) => .error (.failure (.noKeyFound name))
  | .error (.notText _) => .error (unreadable name .malformed)
  | .error trouble => .error (.incident trouble.toIncident)
  | .ok text =>
      match Json.read .standard text.toList with
      | .error refusal => .error (unreadable name refusal)
      | .ok document => keyOf name document

/-- The profile of a name, with the key of the environment unless that is missing or blank. -/
def load (store : Store) (environmentKey : Option String) (tree : Tree) (name : String) :
    Except Fault Profile :=
  match store.profileDirectory name with
  | .error failure => .error (.failure failure)
  | .ok directory =>
      let key := trimmed (environmentKey.getD "")
      if !key.isEmpty then .ok ⟨name, key⟩
      else match tree.isDirectory directory with
        | .error trouble => .error (.incident trouble.toIncident)
        | .ok false => .error (.failure (.profileNotFound name))
        | .ok true =>
            match storedKey name tree directory with
            | .ok key => .ok ⟨name, key⟩
            | .error fault => .error fault

def document (key : String) : String :=
  (Json.object [("api_key", .string key)]).toLine

def save (store : Store) (name key : String) (tree : Tree) : Except Fault Path × Tree :=
  match store.profileDirectory name with
  | .error failure => (.error (.failure failure), tree)
  | .ok directory =>
      match tree.ensureDirectories directory with
      | (.error trouble, tree) => (.error (.incident trouble.toIncident), tree)
      | (.ok (), tree) =>
          match tree.writeText (sensitiveFile directory) (document key) with
          | .error trouble => (.error (.incident trouble.toIncident), tree)
          | .ok tree => (.ok (sensitiveFile directory), tree)

end Store

end Profile

end GraphConsole
