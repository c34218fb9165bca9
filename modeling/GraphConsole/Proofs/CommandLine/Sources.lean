import GraphConsole.CommandLine.Invocation
import GraphConsole.Proofs.CommandLine.Pairs

/-! Command lines that ask for a composition of local schemas. -/

namespace GraphConsole.CommandLine

open GraphConsole.Files

def sourcesOption : Parameter :=
  { Parameter.option "--subgraph" with shape := .sources, repeated := true }

def hintsOption : Parameter := switchOption "--skip-hints"

def composeForm : CommandForm where
  words := ["supergraph", "compose"]
  parameters := [sourcesOption, hintsOption]
  task bound :=
    .compose
      (match parseSources (bound.texts "--subgraph") with
        | .ok sources => sources
        | .error _ => [])
      (bound.isOn "--skip-hints")

/-- The words behind the command: each source behind an option, and at the end, if at all, that
hints are not wanted. -/
def composeWords (texts : List String) (skipHints : Bool) : List String :=
  texts.flatMap (fun text => ["--subgraph", text]) ++ if skipHints then ["--skip-hints"] else []

theorem findCommand_compose (setting : Setting) (words : List String) :
    findCommand setting ("supergraph" :: "compose" :: words) = .ok (composeForm, words) := by
  rfl

theorem scanWords_sources (usage : Usage) (texts words : List String) (scan : Scan) :
    scanWords usage composeForm.allParameters true
        (texts.flatMap (fun text => ["--subgraph", text]) ++ words) scan =
      scanWords usage composeForm.allParameters true words
        (scan.add (texts.map fun text => ("--subgraph", some text))) := by
  induction texts generalizing scan with
  | nil => simp [Scan.add]
  | cons text rest induction =>
      have read : readOption usage composeForm.allParameters "--subgraph" =
          .ok { pending := some (sourcesOption, "--subgraph") } := rfl
      simp only [List.flatMap_cons, List.cons_append, List.nil_append]
      rw [scanWords, if_neg (by decide), if_pos (by decide), read]
      dsimp only
      rw [induction]
      simp [Scan.add, sourcesOption, Parameter.option]

def composeScan (texts : List String) (skipHints : Bool) : Scan where
  given := texts.map (fun text => ("--subgraph", some text)) ++
    if skipHints then [("--skip-hints", none)] else []

theorem scanWords_compose (usage : Usage) (texts : List String) (skipHints : Bool) :
    scanWords usage composeForm.allParameters true (composeWords texts skipHints) {} =
      .ok (composeScan texts skipHints) := by
  rw [composeWords, scanWords_sources]
  cases skipHints with
  | false => simp [scanWords, composeScan, Scan.add]
  | true =>
      have read : readOption usage composeForm.allParameters "--skip-hints" =
          .ok { finished := [("--skip-hints", none)] } := rfl
      rw [if_pos rfl, scanWords, if_neg (by decide), if_pos (by decide), read]
      simp [scanWords, composeScan, Scan.add]

theorem find?_sourcesOption :
    composeForm.allParameters.find? (fun parameter => parameter.name == "--subgraph") =
      some sourcesOption := rfl

theorem find?_hintsOption :
    composeForm.allParameters.find? (fun parameter => parameter.name == "--skip-hints") =
      some hintsOption := rfl

/-- The values of one option count as one option that is given. -/
theorem optionsGiven_eq (parameters : List Parameter) (given : List (String × Option String)) :
    optionsGiven parameters given =
      (given.map Prod.fst).eraseDups.filterMap fun name =>
        (parameters.find? fun parameter => parameter.name == name).map fun parameter =>
          (parameter, (given.filter fun entry => entry.1 == name).map Prod.snd) :=
  rfl

theorem optionsGiven_compose (first : String) (rest : List String) (skipHints : Bool) :
    optionsGiven composeForm.allParameters (composeScan (first :: rest) skipHints).given =
      (sourcesOption, (first :: rest).map some) ::
        if skipHints then [(hintsOption, [none])] else [] := by
  have names : ((composeScan (first :: rest) skipHints).given.map Prod.fst).eraseDups =
      "--subgraph" :: if skipHints then ["--skip-hints"] else [] := by
    cases skipHints <;> simp [composeScan, List.eraseDups_cons, Function.comp_def]
  have values : ((composeScan (first :: rest) skipHints).given.filter
      fun entry => entry.1 == "--subgraph").map Prod.snd = (first :: rest).map some := by
    cases skipHints <;> simp [composeScan, List.filter_eq_self.mpr, Function.comp_def]
  have hints : ((composeScan (first :: rest) true).given.filter
      fun entry => entry.1 == "--skip-hints").map Prod.snd = [none] := by
    simp [composeScan]
  cases skipHints with
  | false =>
      simp only [optionsGiven_eq, names, values, List.filterMap_cons, find?_sourcesOption]
      rfl
  | true =>
      simp only [optionsGiven_eq, names, values, hints, if_true, List.filterMap_cons,
        find?_sourcesOption, find?_hintsOption]
      rfl

theorem bindingOrder_compose (first : String) (rest : List String) (skipHints : Bool) :
    bindingOrder composeForm.allParameters (composeScan (first :: rest) skipHints) =
      [(sourcesOption, (first :: rest).map some), (hintsOption, if skipHints then [none] else []),
        (CommandForm.helpOption, [])] := by
  have given (name : String) :
      ((composeScan (first :: rest) skipHints).given.map Prod.fst).contains name =
        decide (name = "--subgraph" ∨ skipHints = true ∧ name = "--skip-hints") := by
    by_cases source : name = "--subgraph"
    · simp [composeScan, source]
    · cases skipHints <;> simp [composeScan, source, Function.comp_def]
  rw [bindingOrder, optionsGiven_compose]
  simp only [given]
  cases skipHints <;> rfl

theorem bindAll_compose (usage : Usage) (setting : Setting) {texts : List String}
    {sources : List (String × Path)} (parsed : parseSources texts = .ok sources)
    (skipHints : Bool) :
    ∃ bound, bindAll usage setting
        (bindingOrder composeForm.allParameters (composeScan texts skipHints)) = .ok bound ∧
      bound.texts "--subgraph" = texts ∧ bound.isOn "--skip-hints" = skipHints := by
  cases texts with
  | nil => cases skipHints <;> exact ⟨_, rfl, rfl, rfl⟩
  | cons first rest =>
      have value : valueOf setting sourcesOption ((first :: rest).map some) =
          .many (first :: rest) := by
        have given : givenValue sourcesOption ((first :: rest).map some) =
            .many (first :: rest) := by
          simp [givenValue, sourcesOption, Parameter.option]
        rw [valueOf, given]
      have accepted : bindOne usage setting sourcesOption ((first :: rest).map some) =
          .ok (.many (first :: rest)) := by
        have sound : textsComplaint sourcesOption.shape (first :: rest) = none := by
          simp only [textsComplaint, sourcesOption, parsed]
        simp only [bindOne, value, sound]
      rw [bindingOrder_compose, bindAll, accepted]
      cases skipHints <;> exact ⟨_, rfl, rfl, rfl⟩

/-- The words for some sources are read as a composition of what the sources give. -/
theorem readTask_compose (setting : Setting) {texts : List String}
    {sources : List (String × Path)} (parsed : parseSources texts = .ok sources)
    (skipHints : Bool) :
    readTask setting composeForm (composeWords texts skipHints) =
      .ok (.compose sources skipHints) := by
  have helpless : isGiven (composeScan texts skipHints) "--help" = false := by
    cases skipHints <;> simp [isGiven, composeScan, Function.comp_def]
  obtain ⟨bound, accepted, told, hints⟩ :=
    bindAll_compose composeForm.usage setting parsed skipHints
  have task : composeForm.task bound = .compose sources skipHints := by
    simp only [composeForm, told, parsed, hints]
  unfold readTask
  dsimp only
  rw [scanWords_compose]
  simp only [Bind.bind, Except.bind, helpAsked, helpless, Bool.false_eq_true, if_false, accepted,
    task]
  rfl

theorem readInvocation_compose {setting : Setting} {front : List String} {bound : Bound}
    (opened : ∀ words, readGlobals setting (front ++ "supergraph" :: words) =
      .ok (bound, "supergraph" :: words)) {texts : List String} {sources : List (String × Path)}
    (parsed : parseSources texts = .ok sources) (skipHints : Bool) :
    readInvocation setting (front ++ "supergraph" :: "compose" :: composeWords texts skipHints) =
      .ok ⟨settingsOf setting.environment bound, composeForm.usage,
        .compose sources skipHints⟩ := by
  unfold readInvocation
  rw [opened]
  simp only [Bind.bind, Except.bind, findCommand_compose, readTask_compose setting parsed]
  rfl

end GraphConsole.CommandLine
