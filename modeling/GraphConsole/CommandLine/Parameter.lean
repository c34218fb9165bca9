import GraphConsole.Text.Lines

/-! The parameters of commands, as the command line describes them. -/

namespace GraphConsole.CommandLine

open GraphConsole.Text

inductive Shape
  | word
  | switch
  | choice (values : List String)
  | inputFile
  | directory
  | path
  | headers
  | sources
deriving DecidableEq, Repr

/-- An option has spellings; a parameter without any is told by its position. -/
structure Parameter where
  name : String
  spellings : List String := []
  shape : Shape := .word
  repeated : Bool := false
  required : Bool := false
  fallback : Option String := none
  environment : Option String := none
deriving DecidableEq, Repr

namespace Parameter

def argument (name : String) : Parameter :=
  { name := name, required := true }

def option (spelling : String) : Parameter :=
  { name := spelling, spellings := [spelling] }

def isOption (parameter : Parameter) : Bool :=
  !parameter.spellings.isEmpty

def takesValue (parameter : Parameter) : Bool :=
  parameter.shape != .switch

def placeholder (parameter : Parameter) : String :=
  if parameter.required then parameter.name else "[" ++ parameter.name ++ "]"

def label (parameter : Parameter) : String :=
  if parameter.isOption then
    joined " / " (parameter.spellings.map fun spelling => "'" ++ spelling ++ "'")
  else "'" ++ parameter.placeholder ++ "'"

end Parameter

structure Usage where
  words : List String
  placeholders : List String
deriving DecidableEq, Repr

namespace Usage

def path (usage : Usage) : String :=
  joined " " ("cli" :: usage.words)

def toText (usage : Usage) : String :=
  "Usage: " ++ joined " " (usage.path :: "[OPTIONS]" :: usage.placeholders) ++ "\n"

def hint (usage : Usage) : String :=
  "Try '" ++ usage.path ++ " --help' for help.\n\n"

def ofGroup (words : List String) : Usage :=
  ⟨words, ["COMMAND", "[ARGS]..."]⟩

end Usage

end GraphConsole.CommandLine
