import GraphConsole.Console.Dispatcher

/-! A dispatcher in use: steps in any order, and what each of them comes to and writes. -/

namespace GraphConsole.Dispatcher

inductive Step
  | setFormat (format : Format)
  | emit (outcome : Outcome)
  | run (result : Except Fault Answer) (emitSuccess : Bool)

/-- The exit code, if the step has one, or what it raised, and what it wrote. -/
structure Reply where
  result : Except Fault (Option Nat)
  written : Emission

namespace Reply

/-- Whatever is raised, nothing has been written. -/
def of : Except Fault (Nat × Emission) → Reply
  | .ok (code, written) => ⟨.ok (some code), written⟩
  | .error fault => ⟨.error fault, {}⟩

end Reply

namespace Step

/-- The outcome that a step shows; none where there is nothing to show or a success is held
back. -/
def outcome? : Step → Option Outcome
  | .setFormat _ => none
  | .emit outcome => some outcome
  | .run result emitSuccess =>
      match outcomeOf result with
      | .error _ => none
      | .ok (.failure known) => some (.failure known)
      | .ok (.success answer) => if emitSuccess then some (.success answer) else none

/-- The format that is set when the step is done. -/
def formatAfter (format : Format) : Step → Format
  | .setFormat new => new
  | _ => format

end Step

def after (dispatcher : Dispatcher) (step : Step) : Dispatcher :=
  { dispatcher with format := step.formatAfter dispatcher.format }

def reply (dispatcher : Dispatcher) : Step → Reply
  | .setFormat _ => ⟨.ok none, {}⟩
  | .emit outcome => .of (dispatcher.emit outcome)
  | .run result emitSuccess => .of (dispatcher.run result emitSuccess)

def replies (dispatcher : Dispatcher) : List Step → List Reply
  | [] => []
  | step :: rest => dispatcher.reply step :: replies (dispatcher.after step) rest

/-- Either the step shows an outcome, or it writes nothing, whatever the dispatcher. -/
theorem reply_cases (step : Step) :
    (∃ outcome, step.outcome? = some outcome ∧
        ∀ dispatcher : Dispatcher, dispatcher.reply step = .of (dispatcher.emit outcome)) ∨
      step.outcome? = none ∧
        ∃ result, ∀ dispatcher : Dispatcher, dispatcher.reply step = ⟨result, {}⟩ := by
  cases step with
  | setFormat format => exact .inr ⟨rfl, .ok none, fun _ => rfl⟩
  | emit outcome => exact .inl ⟨outcome, rfl, fun _ => rfl⟩
  | run result emitSuccess =>
      have told (dispatcher : Dispatcher) : dispatcher.reply (.run result emitSuccess) =
          .of (dispatcher.run result emitSuccess) := rfl
      simp only [told, Step.outcome?, run]
      cases outcomeOf result with
      | error fault => exact .inr ⟨rfl, .error fault, fun _ => rfl⟩
      | ok outcome =>
          cases outcome with
          | failure known => exact .inl ⟨.failure known, rfl, fun _ => rfl⟩
          | success answer =>
              cases emitSuccess with
              | true => exact .inl ⟨.success answer, rfl, fun _ => rfl⟩
              | false => exact .inr ⟨rfl, .ok (some 0), fun _ => rfl⟩

end GraphConsole.Dispatcher
