import GraphConsole.Failure.Incident
import GraphConsole.Files.Path
import GraphConsole.Text.Utf8

/-! A tree of files and directories as a value, and the operations of a file system on it. -/

namespace GraphConsole.Files

open GraphConsole.Text

/-- The names that lead from the working directory to a file. Leading `..` lead out of it, and a
leading `/` starts at the root; what lies outside is empty but for the directories on the way. -/
abbrev Location := List String

namespace Location

def isOutward (location : Location) : Bool :=
  location.all fun name => name == ".." || name == "/"

def parent (location : Location) : Location :=
  if location = ["/"] then location
  else if location.isOutward then location ++ [".."]
  else location.dropLast

def start (path : Path) : Location :=
  match path.anchor with
  | .relative => []
  | _ => ["/"]

end Location

inductive Entry
  | directory
  | file (octets : List UInt8)
deriving DecidableEq, Repr

structure Tree where
  entries : List (Location × Entry) := []

inductive SystemError
  | notFound
  | exists
  | notDirectory
  | isDirectory
  | nameTooLong
deriving DecidableEq, Repr

namespace SystemError

def number : SystemError → Int
  | .notFound => 2
  | .exists => 17
  | .notDirectory => 20
  | .isDirectory => 21
  | .nameTooLong => 36

def text : SystemError → String
  | .notFound => "No such file or directory"
  | .exists => "File exists"
  | .notDirectory => "Not a directory"
  | .isDirectory => "Is a directory"
  | .nameTooLong => "File name too long"

end SystemError

inductive Trouble
  | system (error : SystemError) (path : String)
  | nulInPath
  | notText (broken : Utf8.Broken)
deriving DecidableEq, Repr

namespace Trouble

def toIncident : Trouble → Incident
  | .system error path => .ofSystem error.number error.text path
  | .nulInPath => ⟨"ValueError", [.string "embedded null byte"], []⟩
  | .notText broken => ⟨"UnicodeDecodeError", [.string broken.message], []⟩

end Trouble

namespace Tree

def find? (tree : Tree) (location : Location) : Option Entry :=
  if location.isOutward then some .directory else tree.entries.lookup location

def put (tree : Tree) (location : Location) (entry : Entry) : Tree :=
  ⟨Entries.put location entry tree.entries⟩

def erase (tree : Tree) (location : Location) : Tree :=
  ⟨tree.entries.filter fun (place, _) => !location.isPrefixOf place⟩

def children (tree : Tree) (location : Location) : List (String × Entry) :=
  tree.entries.filterMap fun (place, entry) =>
    if place.dropLast = location then place.getLast?.map fun name => (name, entry) else none

/-- Follows names from a directory; all but the last must lead to directories. -/
def walk (tree : Tree) (here : Location) : List String → Except SystemError Location
  | [] => .ok here
  | name :: rest =>
      if name = ".." then walk tree here.parent rest
      else if 255 < name.utf8ByteSize then .error .nameTooLong
      else
        let there := here ++ [name]
        match rest with
        | [] => .ok there
        | _ =>
            match tree.find? there with
            | none => .error .notFound
            | some (.file _) => .error .notDirectory
            | some .directory => walk tree there rest

def locate (tree : Tree) (path : Path) : Except SystemError Location :=
  if 4096 ≤ path.toText.utf8ByteSize then .error .nameTooLong
  else tree.walk (Location.start path) path.parts

def status (tree : Tree) (path : Path) : Except SystemError Entry :=
  match tree.locate path with
  | .error error => .error error
  | .ok location =>
      match tree.find? location with
      | some entry => .ok entry
      | none => .error .notFound

def inspect (tree : Tree) (path : Path) : Except Trouble (Option Entry) :=
  if path.holdsNul then .ok none
  else match tree.status path with
    | .ok entry => .ok (some entry)
    | .error .notFound => .ok none
    | .error .notDirectory => .ok none
    | .error error => .error (.system error path.toText)

def isDirectory (tree : Tree) (path : Path) : Except Trouble Bool :=
  (tree.inspect path).map fun
    | some .directory => true
    | _ => false

/-- The names in a directory; none if there is no directory. -/
def names (tree : Tree) (path : Path) : List (String × Entry) :=
  match tree.locate path with
  | .ok location => tree.children location
  | .error _ => []

def isEmptyAt (tree : Tree) (path : Path) : Bool :=
  match tree.locate path with
  | .ok location =>
      if location.isOutward && location != [] then false else (tree.children location).isEmpty
  | .error _ => true

def octets (tree : Tree) (path : Path) : Except Trouble (List UInt8) :=
  if path.holdsNul then .error .nulInPath
  else match tree.status path with
    | .ok (.file octets) => .ok octets
    | .ok .directory => .error (.system .isDirectory path.toText)
    | .error error => .error (.system error path.toText)

def text (tree : Tree) (path : Path) : Except Trouble String :=
  match tree.octets path with
  | .error trouble => .error trouble
  | .ok octets =>
      match Utf8.decode octets with
      | .ok s => .ok (String.ofList (unifyNewlines s))
      | .error broken => .error (.notText broken)

def makeDirectory (tree : Tree) (path : Path) : Except Trouble Tree :=
  if path.holdsNul then .error .nulInPath
  else match tree.locate path with
    | .error error => .error (.system error path.toText)
    | .ok location =>
        match tree.find? location with
        | some _ => .error (.system .exists path.toText)
        | none => .ok (tree.put location .directory)

/-- Leaves a directory that is already there as it is. -/
def ensureDirectory (tree : Tree) (path : Path) : Except Trouble Unit × Tree :=
  match tree.makeDirectory path with
  | .ok tree => (.ok (), tree)
  | .error .nulInPath => (.error .nulInPath, tree)
  | .error trouble =>
      match tree.isDirectory path with
      | .ok true => (.ok (), tree)
      | .ok false => (.error trouble, tree)
      | .error trouble => (.error trouble, tree)

/-- The path with the given parts, last part first, and its missing ancestors. Ancestors stay when
a directory below them cannot be made. -/
def ensureParts (tree : Tree) (anchor : Anchor) : List String → Except Trouble Unit × Tree
  | [] => tree.ensureDirectory ⟨anchor, []⟩
  | last :: before =>
      let path : Path := ⟨anchor, (last :: before).reverse⟩
      match tree.makeDirectory path with
      | .error (.system .notFound _) =>
          match ensureParts tree anchor before with
          | (.ok (), tree) => tree.ensureDirectory path
          | (.error trouble, tree) => (.error trouble, tree)
      | _ => tree.ensureDirectory path

def ensureDirectories (tree : Tree) (path : Path) : Except Trouble Unit × Tree :=
  tree.ensureParts path.anchor path.parts.reverse

def writeOctets (tree : Tree) (path : Path) (octets : List UInt8) : Except Trouble Tree :=
  if path.holdsNul then .error .nulInPath
  else match tree.locate path with
    | .error error => .error (.system error path.toText)
    | .ok location =>
        match tree.find? location with
        | some .directory => .error (.system .isDirectory path.toText)
        | _ => .ok (tree.put location (.file octets))

def writeText (tree : Tree) (path : Path) (text : String) : Except Trouble Tree :=
  tree.writeOctets path (Utf8.encode text.toList)

/-- What the system says of a path as it is spelled: the empty text names nothing, and a slash or
a dot at the end demands a directory. -/
def statusOfText (tree : Tree) (text : String) : Except SystemError Entry :=
  if text.isEmpty then .error .notFound
  else
    let demandsDirectory := match text.toList.reverse with
      | '/' :: _ => true
      | '.' :: '/' :: _ => true
      | _ => false
    match tree.status (Path.ofText text) with
    | .ok (.file octets) => if demandsDirectory then .error .notDirectory else .ok (.file octets)
    | answer => answer

end Tree

end GraphConsole.Files
