import GraphConsole.Files.Path
import GraphConsole.Json.Decode

/-! Settings of one invocation. -/

namespace GraphConsole

inductive Format
  | plain
  | json
deriving DecidableEq, Repr

namespace Format

def name : Format → String
  | .plain => "plain"
  | .json => "json"

def all : List Format := [.plain, .json]

def ofName? (name : String) : Option Format :=
  all.find? fun format => format.name == name

end Format

inductive LogLevel
  | error
  | warn
  | info
  | debug
deriving DecidableEq, Repr

namespace LogLevel

def name : LogLevel → String
  | .error => "error"
  | .warn => "warn"
  | .info => "info"
  | .debug => "debug"

def all : List LogLevel := [.error, .warn, .info, .debug]

def ofName? (name : String) : Option LogLevel :=
  all.find? fun level => level.name == name

def number : LogLevel → Nat
  | .error => 40
  | .warn => 30
  | .info => 20
  | .debug => 10

/-- Without a choice, warnings and errors are shown. -/
def threshold (level : Option LogLevel) : Nat :=
  (level.getD .warn).number

end LogLevel

structure Settings where
  format : Format := .plain
  logLevel : Option LogLevel := none
  configHome : Files.Path
deriving DecidableEq, Repr

namespace Settings

def ofJson (standardHome : Files.Path) : Json → Json.Checked Settings :=
  Json.record fun fields =>
    Settings.mk
      <$> Json.defaulted "output_format" .plain
        (Json.oneOf (Format.all.map fun format => (format.name, format))) fields
      <*> Json.optional "log_level"
        (Json.oneOf (LogLevel.all.map fun level => (level.name, level))) fields
      <*> Json.defaulted "config_home" standardHome path fields
where
  path : Json → Json.Checked Files.Path
    | .string text => .good (Files.Path.ofText text)
    | _ => Json.complain .pathType

end Settings

end GraphConsole
