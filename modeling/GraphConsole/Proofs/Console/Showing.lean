import GraphConsole.Console.Dispatcher
import GraphConsole.Proofs.Outcome.Agreement
import GraphConsole.Proofs.Outcome.EnvelopeText

/-! What a dispatcher makes of a command's end: an exit code with an emission, or, for a fault that
is not its own to show, nothing. -/

namespace GraphConsole

def Fault.reported? : Fault → Option Failure
  | .failure known => some known
  | .incident unforeseen => some (Fault.incident unforeseen).toUnclassified
  | .refusal _ => none
  | .interrupt _ => none

theorem Fault.reported?_incident (unforeseen : Incident) :
    (Fault.incident unforeseen).reported? =
      some (.unclassified (Fault.incident unforeseen).reason) := rfl

namespace Dispatcher

open GraphConsole.Text

/-- What is written for an outcome; nothing for an answer without a rendering. -/
def shown (dispatcher : Dispatcher) (outcome : Outcome) : Emission :=
  match dispatcher.emission outcome with
  | .ok emission => emission
  | .error _ => {}

theorem emission_known (dispatcher : Dispatcher) (output : Output) :
    dispatcher.emission (.success (.known output)) =
      .ok (dispatcher.shown (.success (.known output))) := by
  unfold shown emission
  cases dispatcher.format with
  | plain => rfl
  | json => rfl

theorem emission_failure (dispatcher : Dispatcher) (failure : Failure) :
    dispatcher.emission (.failure failure) = .ok (dispatcher.shown (.failure failure)) := by
  unfold shown emission
  cases dispatcher.format with
  | plain => rfl
  | json => rfl

theorem run_known (dispatcher : Dispatcher) (output : Output) (emitSuccess : Bool) :
    dispatcher.run (.ok (.known output)) emitSuccess =
      .ok (0, if emitSuccess then dispatcher.shown (.success (.known output)) else {}) := by
  cases emitSuccess with
  | true =>
      change dispatcher.emit (.success (.known output)) = _
      rw [emit, emission_known]
      rfl
  | false => rfl

theorem run_reported (dispatcher : Dispatcher) {fault : Fault} {failure : Failure}
    (reported : fault.reported? = some failure) (emitSuccess : Bool) :
    dispatcher.run (.error fault) emitSuccess =
      .ok (1, dispatcher.shown (.failure failure)) := by
  have outcome : outcomeOf (.error fault) = .ok (.failure failure) := by
    cases fault with
    | failure known =>
        cases reported
        rfl
    | incident unforeseen =>
        cases reported
        rfl
    | refusal turned => cases reported
    | interrupt request => cases reported
  rw [run, outcome]
  change dispatcher.emit (.failure failure) = _
  rw [emit, emission_failure]
  rfl

theorem run_unreported (dispatcher : Dispatcher) {fault : Fault}
    (unreported : fault.reported? = none) (emitSuccess : Bool) :
    dispatcher.run (.error fault) emitSuccess = .error fault := by
  cases fault with
  | failure known => cases unreported
  | incident unforeseen => cases unreported
  | refusal turned => rfl
  | interrupt request => rfl

theorem run_foreign (dispatcher : Dispatcher) (name : String) :
    ∃ what, dispatcher.run (.ok (.foreign name)) true =
      .error (.incident (Answer.unhandled what name)) := by
  change ∃ what, dispatcher.emit (.success (.foreign name)) = _
  unfold emit emission
  cases dispatcher.format with
  | plain => exact ⟨_, rfl⟩
  | json => exact ⟨_, rfl⟩

theorem output_of_body (dispatcher : Dispatcher) {report : Report} {body : String}
    (told : report.body = some body) :
    (dispatcher.emissionOfReport report).output =
      if body = "" then [] else dispatcher.writtenBody body.toList := by
  simp only [emissionOfReport, told, String.isEmpty_iff]

/-! What is written about a failure. -/

def label (code : Option String) : String :=
  match code with
  | some code => "error[" ++ code ++ "]:"
  | none => "error:"

def headline (code : Option String) (message : String) : List Char :=
  (label code).toList ++ ' ' :: Table.onPage message.toList

/-- What is written tells of a failure with a code and a message: scripts find both in the
envelope, people on the first line. -/
inductive Tells (code : Option String) (message : String) : Format → Emission → Prop
  | json (envelope : Envelope)
      (failed : envelope.toJson.at? ["data", "success"] = some (.bool false))
      (coded : envelope.toJson.at? ["error", "code"] = some (Json.optionalString code))
      (worded : envelope.toJson.at? ["error", "message"] = some (.string message)) :
      Tells code message .json { output := envelope.toText.toList ++ ['\n'] }
  | plain (items : List Char) :
      Tells code message .plain { errors := printed (headline code message) ++ items }

theorem onPage_label (kind : Failure.Kind) :
    Table.onPage (label kind.code).toList = (label kind.code).toList := by
  cases kind <;> decide

theorem plain_headline (failure : Failure) :
    failure.headline.plain = headline failure.code failure.message := by
  have labelled : failure.headline.plain =
      Table.onPage (label failure.code).toList ++ ' ' :: Table.onPage failure.message.toList := by
    unfold Failure.headline
    cases failure.code with
    | some code => rfl
    | none => rfl
  rw [labelled, headline, Failure.code, onPage_label]

/-- A beginning without line feeds and tabs is printed as it is. -/
theorem printed_append {early : List Char} (line : '\n' ∉ early) (cell : '\t' ∉ early)
    (late : List Char) : ∃ rest, printed (early ++ late) = early ++ rest := by
  cases split : splitAt '\n' late with
  | nil => exact absurd split (splitAt_ne_nil '\n' late)
  | cons first more =>
      obtain ⟨after, expanded⟩ := expandTabs_append 0 cell first
      refine ⟨join ['\n'] (expandTabs after first :: more.map (expandTabs 0)) ++ ['\n'], ?_⟩
      rw [printed, splitAt_append line split, List.map_cons, expanded, join_append_cons,
        List.append_assoc]

/-- On the screen a failure begins with its label. -/
theorem Tells.labelled {code : Option String} {message : String} {emission : Emission}
    (tells : Tells code message .plain emission) (line : '\n' ∉ (label code).toList)
    (cell : '\t' ∉ (label code).toList) :
    ∃ rest, emission.errors = (label code).toList ++ rest := by
  cases tells with
  | plain items =>
      obtain ⟨rest, begun⟩ := printed_append line cell (' ' :: Table.onPage message.toList)
      exact ⟨rest ++ items, by rw [headline, begun, List.append_assoc]⟩

theorem writtenBody_toText (dispatcher : Dispatcher) {envelope : Envelope}
    (whole : envelope.Whole) :
    dispatcher.writtenBody envelope.toText.toList = envelope.toText.toList ++ ['\n'] := by
  rw [writtenBody, whole.withoutControls_toText, ite_self]

theorem shown_json {dispatcher : Dispatcher} (json : dispatcher.format = .json)
    {outcome : Outcome} {envelope : Envelope} (rendered : outcome.envelope = .ok envelope)
    (whole : envelope.Whole) :
    dispatcher.shown outcome = { output := envelope.toText.toList ++ ['\n'] } := by
  unfold shown emission
  rw [json]
  simp only [rendered, dispatcher.writtenBody_toText whole]

theorem shown_plain {dispatcher : Dispatcher} (plain : dispatcher.format = .plain)
    (output : Output) :
    dispatcher.shown (.success (.known output)) =
      dispatcher.emissionOfReport (.ofOutput output) := by
  unfold shown emission
  rw [plain]

theorem shown_plain_failure {dispatcher : Dispatcher} (plain : dispatcher.format = .plain)
    (failure : Failure) :
    dispatcher.shown (.failure failure) = { errors := printedLines failure.lines } := by
  unfold shown emission
  rw [plain]
  rfl

theorem tells_shown (dispatcher : Dispatcher) (failure : Failure) :
    Tells failure.code failure.message dispatcher.format
      (dispatcher.shown (.failure failure)) := by
  unfold shown emission
  cases dispatcher.format with
  | json =>
      have present : failure.envelope.error = some (.ofFailure failure) := rfl
      simp only [Outcome.envelope, dispatcher.writtenBody_toText failure.whole_envelope]
      refine .json failure.envelope failure.envelope.at?_success ?_ ?_
      · rw [Envelope.at?_below_error _ _ _ present]
        rfl
      · rw [Envelope.at?_below_error _ _ _ present]
        rfl
  | plain =>
      have first : printedLines failure.lines =
          printed failure.headline.plain ++ printedLines failure.itemLines := rfl
      simp only [emissionOfFailure, first, plain_headline]
      exact .plain _

end Dispatcher

end GraphConsole
