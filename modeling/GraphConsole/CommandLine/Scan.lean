import GraphConsole.CommandLine.Parameter
import GraphConsole.CommandLine.Resemblance
import GraphConsole.Failure.Incident
import GraphConsole.Text.Lines
import GraphConsole.Text.Quoted

/-! Telling options from other words on a command line. -/

namespace GraphConsole.CommandLine

open GraphConsole.Text

/-- Why a command line is not carried out: it is used wrongly, it only asks for a text, or what it
names cannot even be looked at. -/
inductive Halt
  | misuse (usage : Option Usage) (message : String)
  | tell (text : String)
  | escape (incident : Incident)

structure Scan where
  given : List (String × Option String) := []
  operands : List String := []
deriving DecidableEq, Repr

namespace Scan

def add (scan : Scan) (given : List (String × Option String)) : Scan :=
  { scan with given := scan.given ++ given }

end Scan

def bySpelling? (parameters : List Parameter) (spelling : String) : Option Parameter :=
  parameters.find? fun parameter => parameter.spellings.contains spelling

def longSpellings (parameters : List Parameter) : List String :=
  (parameters.flatMap Parameter.spellings).filter fun spelling =>
    "--".toList.isPrefixOf spelling.toList

def unknownOption (usage : Usage) (spelling : String) (known : List String) : Halt :=
  .misuse (some usage) (withSuggestions ("No such option " ++ quoted spelling ++ ".")
    (resembling spelling known))

def lacksArgument (spelling : String) : Halt :=
  .misuse none ("Option " ++ quoted spelling ++ " requires an argument.")

/-- What a word that starts with a hyphen gives: finished options, and perhaps an option that
takes the next word as its value. -/
structure Reading where
  finished : List (String × Option String) := []
  pending : Option (Parameter × String) := none

/-- The letters of a word such as `-abc`: switches, and at last an option with the remaining
letters as its value. -/
def readLetters (usage : Usage) (parameters : List Parameter) :
    List Char → Except Halt Reading
  | [] => .ok {}
  | letter :: rest =>
      let spelling := String.ofList ['-', letter]
      match bySpelling? parameters spelling with
      | none => .error (unknownOption usage spelling [])
      | some parameter =>
          if parameter.takesValue then
            if rest.isEmpty then .ok { pending := some (parameter, spelling) }
            else .ok { finished := [(parameter.name, some (String.ofList rest))] }
          else match readLetters usage parameters rest with
            | .ok reading =>
                .ok { reading with finished := (parameter.name, none) :: reading.finished }
            | .error halt => .error halt

/-- A word such as `--name` or `--name=value`; one hyphen is enough if the option is spelled so. -/
def readOption (usage : Usage) (parameters : List Parameter) (word : String) :
    Except Halt Reading :=
  let (spelling, value) := match cutAt '=' word.toList with
    | some (spelling, value) => (String.ofList spelling, some (String.ofList value))
    | none => (word, none)
  let isLong := "--".toList.isPrefixOf word.toList
  match if (longSpellings parameters).contains spelling then bySpelling? parameters spelling
    else none with
  | some parameter =>
      match parameter.takesValue, value with
      | true, some value => .ok { finished := [(parameter.name, some value)] }
      | true, none => .ok { pending := some (parameter, spelling) }
      | false, some _ =>
          .error (.misuse none ("Option " ++ quoted spelling ++ " does not take a value."))
      | false, none => .ok { finished := [(parameter.name, none)] }
  | none =>
      if isLong then
        .error (unknownOption usage spelling (longSpellings parameters))
      else readLetters usage parameters (word.toList.drop 1)

/-- Reads words from the left. `--` ends the options, and so does the first other word unless
options may stand behind it. An option takes the next word as its value, whatever that is. -/
def scanWords (usage : Usage) (parameters : List Parameter) (interspersed : Bool) :
    List String → Scan → Except Halt Scan
  | [], scan => .ok scan
  | word :: rest, scan =>
      if word = "--" then .ok { scan with operands := scan.operands ++ rest }
      else if "-".toList.isPrefixOf word.toList && word != "-" then
        match readOption usage parameters word with
        | .error halt => .error halt
        | .ok reading =>
            match reading.pending, rest with
            | none, rest =>
                scanWords usage parameters interspersed rest (scan.add reading.finished)
            | some (_, spelling), [] => .error (lacksArgument spelling)
            | some (parameter, _), value :: rest =>
                scanWords usage parameters interspersed rest
                  (scan.add (reading.finished ++ [(parameter.name, some value)]))
      else if interspersed then
        scanWords usage parameters interspersed rest
          { scan with operands := scan.operands ++ [word] }
      else .ok { scan with operands := scan.operands ++ word :: rest }

end GraphConsole.CommandLine
