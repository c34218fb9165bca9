import GraphConsole.CommandLine.Pairs
import GraphConsole.CommandLine.Scan
import GraphConsole.Files.Tree

/-! Values for the parameters of a command: from the command line, else from the environment, else
the parameter's own fallback. -/

namespace GraphConsole.CommandLine

open GraphConsole.Files
open GraphConsole.Text

inductive Value
  | absent
  | switch (on : Bool)
  | one (text : String)
  | many (texts : List String)
deriving DecidableEq, Repr

structure Setting where
  environment : List (String × String) := []
  files : Tree := {}

abbrev Bound := List (String × Value)

namespace Bound

def text (bound : Bound) (name : String) : String :=
  match bound.lookup name with
  | some (.one text) => text
  | _ => ""

def text? (bound : Bound) (name : String) : Option String :=
  match bound.lookup name with
  | some (.one text) => some text
  | _ => none

def texts (bound : Bound) (name : String) : List String :=
  match bound.lookup name with
  | some (.many texts) => texts
  | _ => []

def isOn (bound : Bound) (name : String) : Bool :=
  bound.lookup name == some (.switch true)

end Bound

/-- An empty environment variable counts as unset. -/
def Setting.valueFor (setting : Setting) (parameter : Parameter) : Option String :=
  match parameter.environment with
  | none => none
  | some name => (setting.environment.lookup name).filter fun value => !value.isEmpty

def givenValue (parameter : Parameter) (given : List (Option String)) : Value :=
  if parameter.shape = .switch then .switch (!given.isEmpty)
  else if parameter.repeated then .many (given.filterMap id)
  else match given.getLast? with
    | some (some text) => .one text
    | _ => .absent

/-- The last of several values counts, unless the parameter takes them all. -/
def valueOf (setting : Setting) (parameter : Parameter) (given : List (Option String)) : Value :=
  match givenValue parameter given with
  | .absent =>
      match (setting.valueFor parameter).or parameter.fallback with
      | some text => .one text
      | none => .absent
  | value => value

def choiceList (values : List String) : String :=
  joined ", " (values.map quoted)

def textComplaint (setting : Setting) (shape : Shape) (text : String) :
    Except Incident (Option String) :=
  match shape with
  | .choice values =>
      .ok (if values.contains text then none
        else some (quoted text ++ " is not one of " ++ choiceList values ++ "."))
  | .inputFile =>
      if text = "-" then .ok none
      else if (Path.ofText text).holdsNul then .error Trouble.nulInPath.toIncident
      else .ok (match setting.files.statusOfText text with
        | .ok (.file _) => none
        | .ok .directory => some ("'" ++ text ++ "': " ++ SystemError.isDirectory.text)
        | .error error => some ("'" ++ text ++ "': " ++ error.text))
  | .directory =>
      if (Path.ofText text).holdsNul then .error Trouble.nulInPath.toIncident
      else .ok (match setting.files.statusOfText text with
        | .ok (.file _) => some ("Directory " ++ quoted text ++ " is a file.")
        | _ => none)
  | .path =>
      if (Path.ofText text).holdsNul then .error Trouble.nulInPath.toIncident else .ok none
  | _ => .ok none

def textsComplaint (shape : Shape) (texts : List String) : Option String :=
  match shape with
  | .headers =>
      match parseHeaders texts with
      | .ok _ => none
      | .error complaint => some complaint
  | .sources =>
      match parseSources texts with
      | .ok _ => none
      | .error complaint => some complaint
  | _ => none

def missing (parameter : Parameter) : String :=
  (if parameter.isOption then "Missing option " else "Missing argument ") ++ parameter.label
    ++ "."

def bindOne (usage : Usage) (setting : Setting) (parameter : Parameter)
    (given : List (Option String)) : Except Halt Value :=
  let invalid (complaint : String) : Halt :=
    .misuse (some usage) ("Invalid value for " ++ parameter.label ++ ": " ++ complaint)
  match valueOf setting parameter given with
  | .absent =>
      if parameter.required then .error (.misuse (some usage) (missing parameter))
      else .ok .absent
  | .switch on => .ok (.switch on)
  | .one text =>
      match textComplaint setting parameter.shape text with
      | .error incident => .error (.escape incident)
      | .ok none => .ok (.one text)
      | .ok (some complaint) => .error (invalid complaint)
  | .many texts =>
      match textsComplaint parameter.shape texts with
      | none => .ok (.many texts)
      | some complaint => .error (invalid complaint)

def bindAll (usage : Usage) (setting : Setting) :
    List (Parameter × List (Option String)) → Except Halt Bound
  | [] => .ok []
  | (parameter, given) :: rest =>
      match bindOne usage setting parameter given with
      | .error halt => .error halt
      | .ok value =>
          match bindAll usage setting rest with
          | .ok bound => .ok ((parameter.name, value) :: bound)
          | .error halt => .error halt

def positional (parameters : List Parameter) (operands : List String) :
    List (Parameter × List (Option String)) :=
  let arguments := parameters.filter fun parameter => !parameter.isOption
  arguments.zipIdx.map fun (parameter, index) => (parameter, [operands[index]?])

def optionsGiven (parameters : List Parameter) (given : List (String × Option String)) :
    List (Parameter × List (Option String)) :=
  let names := (given.map Prod.fst).eraseDups
  names.filterMap fun name =>
    (parameters.find? fun parameter => parameter.name == name).map fun parameter =>
      (parameter, (given.filter fun (other, _) => other == name).map Prod.snd)

/-- The order in which parameters are looked at, and so the order of complaints: options given,
then positional parameters, then the other options. -/
def bindingOrder (parameters : List Parameter) (scan : Scan) :
    List (Parameter × List (Option String)) :=
  let given := optionsGiven parameters scan.given
  let rest := parameters.filter fun parameter =>
    parameter.isOption && !(scan.given.map Prod.fst).contains parameter.name
  given ++ positional parameters scan.operands ++ rest.map fun parameter => (parameter, [])

end GraphConsole.CommandLine
