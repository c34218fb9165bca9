import GraphConsole.Proofs.Console.Session
import GraphConsole.Proofs.Outcome.Agreement

/-! Whether a dispatcher is interactive decides on narration only. What a step comes to and what it
writes on standard output do not depend on it, and advice is given either way. -/

namespace GraphConsole.Dispatcher

open GraphConsole.Text

theorem printedLines_eq_nil_iff (lines : List Line) : printedLines lines = [] ↔ lines = [] := by
  constructor
  · intro empty
    cases lines with
    | nil => rfl
    | cons line rest => simp [printedLines, printed] at empty
  · rintro rfl
    rfl

/-- One step, taken with narration and without it. -/
structure Narrated (format : Format) (step : Step) (lively quiet : Reply) : Prop where
  result : quiet.result = lively.result
  output : quiet.written.output = lively.written.output
  suffix : quiet.written.errors <:+ lively.written.errors
  json : format = .json → quiet.written.errors = [] ∧ lively.written.errors = []
  failure : ∀ known, step.outcome? = some (.failure known) →
    quiet.written.errors = lively.written.errors
  advice : ∀ output, format = .plain → step.outcome? = some (.success (.known output)) →
    quiet.written.errors = printedLines (Report.ofOutput output).advisory ∧
      (quiet.written.errors = [] ↔ output.buildErrors = [])
  silence : step.outcome? = none → quiet.written = {} ∧ lively.written = {}

/-- Step by step, in the format that is set by then. -/
inductive NarratedSession : Format → List Step → List Reply → List Reply → Prop
  | done (format : Format) : NarratedSession format [] [] []
  | next {format : Format} {step : Step} {steps : List Step} {lively quiet : Reply}
      {restLively restQuiet : List Reply} (narrated : Narrated format step lively quiet)
      (rest : NarratedSession (step.formatAfter format) steps restLively restQuiet) :
      NarratedSession format (step :: steps) (lively :: restLively) (quiet :: restQuiet)

def lively (dispatcher : Dispatcher) : Dispatcher :=
  { dispatcher with interactive := true }

def quiet (dispatcher : Dispatcher) : Dispatcher :=
  { dispatcher with interactive := false }

theorem errors_emit_json (dispatcher : Dispatcher) (json : dispatcher.format = .json)
    (outcome : Outcome) : (Reply.of (dispatcher.emit outcome)).written.errors = [] := by
  simp only [emit, emission, json]
  cases outcome.envelope with
  | error incident => rfl
  | ok envelope => rfl

theorem narrated_of_same {format : Format} {step : Step} {reply : Reply}
    (json : format = .json → reply.written.errors = [])
    (noOutput : ∀ output, format = .plain → step.outcome? ≠ some (.success (.known output)))
    (shows : step.outcome? ≠ none) : Narrated format step reply reply where
  result := rfl
  output := rfl
  suffix := List.suffix_refl _
  json isJson := ⟨json isJson, json isJson⟩
  failure _ _ := rfl
  advice output plain shown := absurd shown (noOutput output plain)
  silence hidden := absurd hidden shows

/-- In plain format the narration of an output stands before the advice, and nothing else
differs. -/
theorem narrated_output (dispatcher : Dispatcher) (plain : dispatcher.format = .plain) {step : Step}
    {output : Output} (shown : step.outcome? = some (.success (.known output))) :
    Narrated .plain step (.of (dispatcher.lively.emit (.success (.known output))))
      (.of (dispatcher.quiet.emit (.success (.known output)))) := by
  obtain ⟨_, interactive, terminal⟩ := dispatcher
  obtain rfl := plain
  have advised : printedLines (Report.ofOutput output).advisory = [] ↔ output.buildErrors = [] := by
    rw [printedLines_eq_nil_iff]
    simpa using not_congr output.advisory_ne_nil_iff
  constructor
  case result => rfl
  case output => rfl
  case suffix => exact List.suffix_append _ _
  case json => exact nofun
  case failure => simp [shown]
  case advice =>
    rintro other _ same
    obtain rfl : output = other := by simpa [shown] using same
    exact ⟨rfl, advised⟩
  case silence => simp [shown]

theorem narrated_emit (dispatcher : Dispatcher) {step : Step} {outcome : Outcome}
    (shown : step.outcome? = some outcome) :
    Narrated dispatcher.format step (.of (dispatcher.lively.emit outcome))
      (.of (dispatcher.quiet.emit outcome)) := by
  have shows : step.outcome? ≠ none := by simp [shown]
  cases format : dispatcher.format with
  | json =>
      have same : dispatcher.quiet.emit outcome = dispatcher.lively.emit outcome := by
        simp only [emit, emission, quiet, lively, format]
        rfl
      rw [same]
      exact narrated_of_same (fun _ => errors_emit_json dispatcher.lively format outcome) nofun
        shows
  | plain =>
      cases outcome with
      | failure known =>
          have same : dispatcher.quiet.emit (.failure known) =
              dispatcher.lively.emit (.failure known) := by
            simp only [emit, emission, quiet, lively, format]
          rw [same]
          exact narrated_of_same nofun (fun output _ => by simp [shown]) shows
      | success answer =>
          cases answer with
          | known output => exact narrated_output dispatcher format shown
          | foreign name =>
              have same : dispatcher.quiet.emit (.success (.foreign name)) =
                  dispatcher.lively.emit (.success (.foreign name)) := by
                simp only [emit, emission, quiet, lively, format]
              rw [same]
              exact narrated_of_same nofun (fun output _ => by simp [shown]) shows

theorem narrated_reply (dispatcher : Dispatcher) (step : Step) :
    Narrated dispatcher.format step (dispatcher.lively.reply step)
      (dispatcher.quiet.reply step) := by
  rcases reply_cases step with ⟨outcome, shown, told⟩ | ⟨hidden, result, told⟩
  · rw [told, told]
    exact narrated_emit dispatcher shown
  · rw [told, told]
    exact ⟨rfl, rfl, List.suffix_refl _, fun _ => ⟨rfl, rfl⟩, fun _ _ => rfl,
      fun _ _ shown => by simp [hidden] at shown, fun _ => ⟨rfl, rfl⟩⟩

/-- Over any session, being interactive adds narration and changes nothing else. -/
theorem narrated_session (dispatcher : Dispatcher) (steps : List Step) :
    NarratedSession dispatcher.format steps (dispatcher.lively.replies steps)
      (dispatcher.quiet.replies steps) := by
  induction steps generalizing dispatcher with
  | nil => exact .done _
  | cons step rest induction =>
      exact .next (narrated_reply dispatcher step) (induction (dispatcher.after step))

end GraphConsole.Dispatcher
