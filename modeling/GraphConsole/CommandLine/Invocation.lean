import GraphConsole.CommandLine.Binding
import GraphConsole.Console.Settings
import GraphConsole.Profile.Store
import GraphConsole.Registry.Template
import GraphConsole.Text.Punctuation

/-! Invocations: what the words of a command line ask for. -/

namespace GraphConsole.CommandLine

open GraphConsole.Files
open GraphConsole.Registry

inductive Source
  | file (path : Path)
  | standardInput
deriving DecidableEq, Repr

def Source.ofText (text : String) : Source :=
  if text = "-" then .standardInput else .file (Path.ofText text)

inductive GraphTask
  | fetchGraph
  | publishGraph (schema : Source)
  | checkGraph (schema : Source) (background : Bool)
  | listSubgraphs
  | fetchSubgraph (name : String)
  | publishSubgraph (name : String) (schema : Source) (routingUrl : Option String)
  | fetchSupergraph
  | fetchReadme
  | publishReadme (file : Source)
  | describeContract
  | publishContract (sourceVariant : String) (includeTags excludeTags : List String)
deriving DecidableEq, Repr

inductive Task
  | listDocs
  | openDocs (slug : String)
  | explain (code : String)
  | listProfiles
  | storeProfile (name : String)
  | listTemplates (language : Option Language)
  | useTemplate (id : String) (path : Path)
  | introspect (endpoint : String) (headers : List (String × String))
  | compose (sources : List (String × Path)) (skipHints : Bool)
  | onGraph (profile reference : String) (task : GraphTask)
  | deleteSubgraph (profile reference name : String) (confirmed : Bool)
deriving DecidableEq, Repr

structure CommandForm where
  words : List String
  parameters : List Parameter
  task : Bound → Task

namespace CommandForm

def helpOption : Parameter :=
  { name := "--help", spellings := ["--help"], shape := .switch }

def allParameters (form : CommandForm) : List Parameter :=
  form.parameters ++ [helpOption]

def usage (form : CommandForm) : Usage where
  words := form.words
  placeholders := (form.parameters.filter fun parameter => !parameter.isOption).map
    Parameter.placeholder

end CommandForm

def graphArgument : Parameter := .argument "GRAPH_REF"

def profileOption : Parameter :=
  { Parameter.option "--profile" with fallback := some Profile.defaultName }

def schemaOption : Parameter :=
  { Parameter.option "--schema" with shape := .inputFile, required := true }

def nameOption : Parameter :=
  { Parameter.option "--name" with required := true }

def switchOption (spelling : String) : Parameter :=
  { Parameter.option spelling with shape := .switch }

def headerOption : Parameter :=
  { name := "--header", spellings := ["--header", "-H"], shape := .headers, repeated := true }

/-- A command on one graph; besides the options that it adds, it takes the graph and a profile. -/
def graphForm (words : List String) (options : List Parameter) (task : Bound → GraphTask) :
    CommandForm where
  words := words
  parameters := graphArgument :: options ++ [profileOption]
  task bound := .onGraph (bound.text "--profile") (bound.text "GRAPH_REF") (task bound)

def introspectForm (group : String) : CommandForm where
  words := [group, "introspect"]
  parameters := [.argument "ENDPOINT", headerOption]
  task bound :=
    .introspect (bound.text "ENDPOINT")
      (match parseHeaders (bound.texts "--header") with
        | .ok headers => headers
        | .error _ => [])

def commandForms : List CommandForm := [
  { words := ["docs", "list"], parameters := [], task := fun _ => .listDocs },
  { words := ["docs", "open"], parameters := [.argument "SLUG"],
    task := fun bound => .openDocs (bound.text "SLUG") },
  { words := ["explain"], parameters := [.argument "CODE"],
    task := fun bound => .explain (bound.text "CODE") },
  { words := ["profile", "list"], parameters := [], task := fun _ => .listProfiles },
  { words := ["profile", "auth"],
    parameters := [{ name := "NAME", fallback := some Profile.defaultName }],
    task := fun bound => .storeProfile (bound.text "NAME") },
  { words := ["template", "list"],
    parameters := [{ Parameter.option "--language" with
      shape := .choice (Language.all.map Language.name) }],
    task := fun bound => .listTemplates ((bound.text? "--language").bind Language.ofName?) },
  { words := ["template", "use"],
    parameters := [.argument "TEMPLATE_ID", { Parameter.argument "PATH" with shape := .path }],
    task := fun bound =>
      .useTemplate (bound.text "TEMPLATE_ID") (Path.ofText (bound.text "PATH")) },
  graphForm ["graph", "fetch"] [] fun _ => .fetchGraph,
  graphForm ["graph", "publish"] [schemaOption] fun bound =>
    .publishGraph (.ofText (bound.text "--schema")),
  graphForm ["graph", "check"] [schemaOption, switchOption "--background"] fun bound =>
    .checkGraph (.ofText (bound.text "--schema")) (bound.isOn "--background"),
  introspectForm "graph",
  graphForm ["subgraph", "list"] [] fun _ => .listSubgraphs,
  graphForm ["subgraph", "fetch"] [nameOption] fun bound => .fetchSubgraph (bound.text "--name"),
  graphForm ["subgraph", "publish"] [nameOption, schemaOption, .option "--routing-url"]
    fun bound => .publishSubgraph (bound.text "--name") (.ofText (bound.text "--schema"))
      (bound.text? "--routing-url"),
  { words := ["subgraph", "delete"],
    parameters := [graphArgument, nameOption, switchOption "--confirm", profileOption],
    task := fun bound => .deleteSubgraph (bound.text "--profile") (bound.text "GRAPH_REF")
      (bound.text "--name") (bound.isOn "--confirm") },
  introspectForm "subgraph",
  graphForm ["supergraph", "fetch"] [] fun _ => .fetchSupergraph,
  { words := ["supergraph", "compose"],
    parameters := [{ Parameter.option "--subgraph" with shape := .sources, repeated := true },
      switchOption "--skip-hints"],
    task := fun bound =>
      .compose
        (match parseSources (bound.texts "--subgraph") with
          | .ok sources => sources
          | .error _ => [])
        (bound.isOn "--skip-hints") },
  graphForm ["readme", "fetch"] [] fun _ => .fetchReadme,
  graphForm ["readme", "publish"]
    [{ Parameter.option "--file" with shape := .inputFile, required := true }]
    fun bound => .publishReadme (.ofText (bound.text "--file")),
  graphForm ["contract", "describe"] [] fun _ => .describeContract,
  graphForm ["contract", "publish"]
    [{ Parameter.option "--source-variant" with required := true },
      { Parameter.option "--include-tag" with repeated := true },
      { Parameter.option "--exclude-tag" with repeated := true }]
    fun bound => .publishContract (bound.text "--source-variant") (bound.texts "--include-tag")
      (bound.texts "--exclude-tag")]

def globalOptions : List Parameter := [
  switchOption "--version",
  { Parameter.option "--format" with
    shape := .choice (Format.all.map Format.name), fallback := some Format.plain.name,
    environment := some "ROVER_FORMAT" },
  { Parameter.option "--log" with
    shape := .choice (LogLevel.all.map LogLevel.name), environment := some "ROVER_LOG" },
  { Parameter.option "--config-home" with
    shape := .directory, environment := some "ROVER_CONFIG_HOME" },
  CommandForm.helpOption]

def versionText : String := "rover, version 0.1.0\n"

def standardConfigHome (environment : List (String × String)) : Path :=
  let home := (environment.lookup "HOME").getD "home"
  let base := (environment.lookup "XDG_CONFIG_HOME").getD
    (String.ofList (Text.dropTrailing (· == '/') home.toList) ++ "/.config")
  Path.ofText (if base.isEmpty then "rover" else base ++ "/rover")

def settingsOf (environment : List (String × String)) (bound : Bound) : Settings where
  format := ((bound.text? "--format").bind Format.ofName?).getD .plain
  logLevel := (bound.text? "--log").bind LogLevel.ofName?
  configHome := match bound.text? "--config-home" with
    | some text => Path.ofText text
    | none => standardConfigHome environment

structure Invocation where
  settings : Settings
  usage : Usage
  task : Task

def isGiven (scan : Scan) (name : String) : Bool :=
  (scan.given.map Prod.fst).contains name

/-- A request for help comes before everything else. -/
def helpAsked (usage : Usage) (scan : Scan) : Except Halt Unit :=
  if isGiven scan "--help" then .error (.tell usage.toText) else .ok ()

def readGlobals (setting : Setting) (words : List String) : Except Halt (Bound × List String) := do
  let usage := Usage.ofGroup []
  let scan ← scanWords usage globalOptions false words {}
  if isGiven scan "--version" then throw (.tell versionText)
  helpAsked usage scan
  let bound ← bindAll usage setting (bindingOrder globalOptions { scan with operands := [] })
  return (bound, scan.operands)

def readGroup (group : String) (words : List String) : Except Halt (List String) := do
  let usage := Usage.ofGroup [group]
  let scan ← scanWords usage [CommandForm.helpOption] false words {}
  helpAsked usage scan
  return scan.operands

/-- A word that starts like no name, with neither a letter nor a digit; behind `--` it may still be
meant as an option. -/
def isOddWord (word : String) : Bool :=
  match word.toList with
  | [] => false
  | c :: _ => Text.isPunctuation c || c == ' ' || !Text.isPrintable c

/-- The complaint about a word that names no command. If it is an odd word, options are looked for
in it and all that follow it, and what is wrong with them is told first. -/
def unknownCommand (words : List String) (known : List String) (word : String)
    (reread : Except Halt Unit) : Halt :=
  let complaint : Halt := .misuse (some (.ofGroup words))
    (withSuggestions ("No such command " ++ Text.quoted word ++ ".") (resembling word known))
  if isOddWord word then
    match reread with
    | .error halt => halt
    | .ok () => complaint
  else complaint

def firstWords : List String :=
  (commandForms.filterMap fun form => form.words.head?).eraseDups

def wordsIn (group : String) : List String :=
  (commandForms.filter fun form => form.words.head? == some group).filterMap fun form =>
    form.words[1]?

inductive Found
  | command (form : CommandForm) (rest : List String)
  | group (name : String) (rest : List String)

def findFirst (setting : Setting) : List String → Except Halt Found
  | [] => .error (.misuse (some (.ofGroup [])) "Missing command.")
  | word :: rest =>
      match commandForms.find? fun form => form.words == [word] with
      | some form => .ok (.command form rest)
      | none =>
          if firstWords.contains word then .ok (.group word rest)
          else .error (unknownCommand [] firstWords word
            ((readGlobals setting (word :: rest)).map fun _ => ()))

def findInGroup (group : String) : List String → Except Halt (CommandForm × List String)
  | [] => .error (.misuse (some (.ofGroup [group])) "Missing command.")
  | word :: rest =>
      match commandForms.find? fun form => form.words == [group, word] with
      | some form => .ok (form, rest)
      | none => .error (unknownCommand [group] (wordsIn group) word
          ((readGroup group (word :: rest)).map fun _ => ()))

def readTask (setting : Setting) (form : CommandForm) (words : List String) :
    Except Halt Task := do
  let usage := form.usage
  let parameters := form.allParameters
  let scan ← scanWords usage parameters true words {}
  helpAsked usage scan
  let bound ← bindAll usage setting (bindingOrder parameters scan)
  let arguments := parameters.filter fun parameter => !parameter.isOption
  match scan.operands.drop arguments.length with
  | [] => return form.task bound
  | [extra] =>
      throw (.misuse (some usage) ("Got unexpected extra argument (" ++ extra ++ ")"))
  | extra =>
      throw (.misuse (some usage) ("Got unexpected extra arguments ("
        ++ Text.joined " " extra ++ ")"))

def findCommand (setting : Setting) (words : List String) :
    Except Halt (CommandForm × List String) := do
  match ← findFirst setting words with
  | .command form rest => return (form, rest)
  | .group group rest => findInGroup group (← readGroup group rest)

def readInvocation (setting : Setting) (words : List String) : Except Halt Invocation := do
  let (bound, operands) ← readGlobals setting words
  let (form, rest) ← findCommand setting operands
  let task ← readTask setting form rest
  return ⟨settingsOf setting.environment bound, form.usage, task⟩

end GraphConsole.CommandLine
