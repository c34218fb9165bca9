import GraphConsole.Console.Settings
import GraphConsole.Outcome.Table
import GraphConsole.Text.Wrap

/-! The log: records that are shown on standard error, and who shows them. The dots of their names
put loggers below one another. -/

namespace GraphConsole.Log

open GraphConsole.Text

structure Record where
  logger : String
  level : Nat
  levelName : String
  message : String
deriving DecidableEq, Repr

inductive Handler
  | console
  | other
deriving DecidableEq, Repr

/-- A logger shows the records of its name and of the names below it. One without a level of its
own has that of the next logger above it. -/
structure Logger where
  handlers : List Handler := []
  level : Nat := 0
  propagates : Bool := true
deriving DecidableEq, Repr

namespace Logger

/-- One console handler, in place of those from earlier configurations. -/
def configure (logger : Logger) (level : Option LogLevel) : Logger where
  handlers := (logger.handlers.filter fun handler => handler != .console) ++ [.console]
  level := LogLevel.threshold level
  propagates := false

def consoleCount (logger : Logger) : Nat :=
  logger.handlers.countP fun handler => handler == .console

end Logger

/-- The loggers of a process: the root, and those that have been asked for by name, the newest
entry of a name first. What loggers have answered on letting records of a level pass is kept. -/
structure Hierarchy where
  root : Logger := { level := 30 }
  named : List (String × Logger) := []
  answers : List ((String × Nat) × Bool) := []
deriving DecidableEq, Repr

def packageName : String := "rover"

namespace Hierarchy

def find? (hierarchy : Hierarchy) (name : String) : Option Logger :=
  hierarchy.named.lookup name

/-- A logger is there from the first time that it is asked for. -/
def ask (hierarchy : Hierarchy) (name : String) : Hierarchy :=
  match hierarchy.find? name with
  | some _ => hierarchy
  | none => { hierarchy with named := (name, {}) :: hierarchy.named }

/-- The logger of the package, which is the only one that is ever configured. -/
def package (hierarchy : Hierarchy) : Logger :=
  (hierarchy.find? packageName).getD {}

/-- With a level that is set all answers are forgotten. -/
def configure (hierarchy : Hierarchy) (level : Option LogLevel) : Hierarchy where
  root := hierarchy.root
  named := (packageName, hierarchy.package.configure level) :: hierarchy.named

/-- The loggers above a name that is given backwards, the nearest first and the root last. Each is
looked for under what stands before a dot, from the last dot on; the dot right before one that has
been tried in vain is passed over. -/
def above (hierarchy : Hierarchy) : List Char → List Logger
  | [] => [hierarchy.root]
  | '.' :: [] => [hierarchy.root]
  | '.' :: c :: rest =>
      match hierarchy.find? (String.ofList (c :: rest).reverse) with
      | some logger => logger :: hierarchy.above (c :: rest)
      | none => hierarchy.above rest
  | _ :: rest => hierarchy.above rest

/-- A logger and those above it. -/
def lineage (hierarchy : Hierarchy) (name : String) : List Logger :=
  (hierarchy.find? name).toList ++ hierarchy.above name.toList.reverse

def levelOf : List Logger → Nat
  | [] => 0
  | logger :: above => if logger.level = 0 then levelOf above else logger.level

/-- The handlers that a record comes to on its way up, which ends at the first logger that does not
propagate. -/
def handlersOf : List Logger → List Handler
  | [] => []
  | logger :: above => logger.handlers ++ if logger.propagates then handlersOf above else []

/-- Whether a logger lets a record pass. The first of its level decides for those that follow, even
if the logger has come below another one since. -/
def passes (hierarchy : Hierarchy) (record : Record) : Bool :=
  (hierarchy.answers.lookup (record.logger, record.level)).getD
    (levelOf (hierarchy.lineage record.logger) ≤ record.level)

def remember (hierarchy : Hierarchy) (record : Record) : Hierarchy :=
  { hierarchy with
    answers := ((record.logger, record.level), hierarchy.passes record) :: hierarchy.answers }

/-- The handlers that are given a record. -/
def takers (hierarchy : Hierarchy) (record : Record) : List Handler :=
  if hierarchy.passes record then handlersOf (hierarchy.lineage record.logger) else []

/-- What the console handlers show of some records. -/
def shown : Hierarchy → List Record → List Record
  | _, [] => []
  | hierarchy, record :: records =>
      let asked := hierarchy.ask record.logger
      List.replicate ((asked.takers record).count .console) record
        ++ (asked.remember record).shown records

end Hierarchy

def levelColumn (record : Record) : List Char :=
  fitCells 8 record.levelName.toList

/-- Columns of a screen on which nothing else is shown, and of one that is not known. -/
def wideScreen : Nat := 200

def plainScreen : Nat := 80

def Record.onScreen (columns : Nat) (record : Record) : List Char :=
  let room := columns - 9
  let message := Table.onPage record.message.toList
  let lines := (splitAt '\n' message).flatMap fun line => wrap room .cut (expandTabs 0 line)
  let rows := lines.zipIdx.map fun (line, index) =>
    (if index = 0 then levelColumn record else List.replicate 8 ' ') ++ ' '
      :: fitCells room line ++ ['\n']
  rows.flatten

def readable (records : List Record) : List String :=
  (lines (records.flatMap (Record.onScreen wideScreen))).map fun line =>
    String.ofList (dropTrailingBlanks line)

end GraphConsole.Log
