import GraphConsole.Proofs.Command.Enrichment
import GraphConsole.Proofs.Outcome.Breakage

/-! Checks that the registry has answered, from the answer to what is shown of it. The verdict of
the registry decides, whatever else it says: a check that failed never comes out as a success. -/

namespace GraphConsole

open GraphConsole.Registry
open GraphConsole.Service
open GraphConsole.Text

/-- The changes have passed, or it has yet to be found out whether they do. -/
inductive Service.CheckAnswer.Passes : CheckAnswer → Prop
  | queued (check : QueuedCheck) : Passes (.queued check)
  | finished {report : CheckReport} (passed : report.result = .pass) : Passes (.finished report)

theorem Service.CheckAnswer.finished_of_not_passes {answer : CheckAnswer}
    (failed : ¬ answer.Passes) : ∃ report, answer = .finished report ∧ report.result = .fail := by
  cases answer with
  | queued check => exact absurd (.queued check) failed
  | finished report =>
      refine ⟨report, rfl, ?_⟩
      cases result : report.result with
      | fail => rfl
      | pass => exact absurd (.finished result) failed

/-- An envelope holds the summary of a report as it is. Neither a failure nor the envelope's own
flag has changed anything in it. -/
structure Envelope.Summarizes (envelope : Envelope) (report : CheckReport) : Prop where
  given : envelope.fields = report.summaryFields
  data : envelope.data = report.summaryFields
  flag : envelope.success = decide (report.result = .pass)
  success : report.summaryFields.lookup "success" = some (.bool envelope.success)
  failureCount : envelope.toJson.at? ["data", "failure_count"] = some (.integer report.failureCount)
  changes : ∃ entries, envelope.toJson.at? ["data", "changes"] = some (.array entries) ∧
    List.Forall₂ SchemaChange.Shown entries report.changes

/-- The summary of a report has the flag of the envelope already. -/
theorem Registry.CheckReport.put_success (report : CheckReport) {flag : Bool}
    (verdict : flag = decide (report.result = .pass)) :
    Entries.put "success" (.bool flag) report.summaryFields = report.summaryFields := by
  subst verdict
  rfl

theorem Envelope.summarizes_of_fields {envelope : Envelope} {report : CheckReport}
    (given : envelope.fields = report.summaryFields)
    (flag : envelope.success = decide (report.result = .pass)) : envelope.Summarizes report := by
  have data : envelope.data = report.summaryFields := by
    rw [Envelope.data, given, report.put_success flag]
  have below (key : String) : envelope.toJson.at? ["data", key] =
      (report.summaryFields.lookup key).bind (Json.at? []) := by
    change (envelope.data.lookup key).bind (Json.at? []) = _
    rw [data]
  constructor
  case given => exact given
  case data => exact data
  case flag => exact flag
  case success =>
    rw [flag]
    rfl
  case failureCount => exact below "failure_count"
  case changes =>
    refine ⟨_, below "changes", ?_⟩
    rw [List.forall₂_map_left_iff, List.forall₂_same]
    exact fun change _ => change.shown_toJson

theorem Output.summarizes_check {report : CheckReport} (passed : report.result = .pass) :
    (Output.check report).envelope.Summarizes report :=
  Envelope.summarizes_of_fields rfl (by simp [Output.envelope, passed])

theorem Failure.code_operationCheck (graph : GraphRef) (report : CheckReport) :
    (Failure.operationCheck graph report).code = some "E030" := by
  simp only [Failure.code, Failure.kind, Kind.code]

theorem Failure.summarizes_operationCheck (graph : GraphRef) {report : CheckReport}
    (failed : report.result = .fail) :
    (Failure.operationCheck graph report).envelope.Summarizes report :=
  Envelope.summarizes_of_fields (report.put_success (by simp [failed]))
    (by simp [Failure.envelope, failed])

theorem Report.checkBody_ne_empty (report : CheckReport) : checkBody report ≠ "" := by
  have begun : ∃ rest, (checkBody report).toList = "Compared ".toList ++ rest := by
    rw [checkBody, joined, String.toList_ofList, List.cons_append, List.map_cons]
    simp only [String.toList_append, List.append_assoc, join_append_cons]
    exact ⟨_, rfl⟩
  obtain ⟨rest, begun⟩ := begun
  intro empty
  rw [empty] at begun
  cases begun

namespace Command

/-- What is shown of a check that has been answered: its verdict as an exit code, a failure with its
code, and the registry's own account, on the stream where it belongs. -/
structure Judged (dispatcher : Dispatcher) (graph : GraphRef) (answer : CheckAnswer) (code : Nat)
    (emission : Emission) : Prop where
  success : code = 0 ↔ answer.Passes
  failure : ¬ answer.Passes → code = 1 ∧ ∃ report, answer = .finished report ∧
    Dispatcher.Tells (some "E030") (Failure.operationCheck graph report).message dispatcher.format
      emission
  scripts : dispatcher.format = .json → ∀ report, answer = .finished report →
    ∃ envelope : Envelope, emission = { output := envelope.toText.toList ++ ['\n'] } ∧
      envelope.Summarizes report
  failedPlain : dispatcher.format = .plain → ∀ report, answer = .finished report →
    report.result = .fail → emission.output = [] ∧
      emission.errors = Dispatcher.printedLines (Failure.operationCheck graph report).lines
  passedPlain : dispatcher.format = .plain → ∀ report, answer = .finished report →
    report.result = .pass →
      emission.output = dispatcher.writtenBody (Report.checkBody report).toList ∧
      ('\x1b' ∉ (Report.checkBody report).toList →
        emission.output = (Report.checkBody report).toList ++ ['\n'])

section Judging

variable (dispatcher : Dispatcher) (graph : GraphRef)

theorem judged_passed {answer : CheckAnswer} (passes : answer.Passes) {output : Output}
    (told : checkOutput graph answer = .ok output) :
    Judged dispatcher graph answer 0 (dispatcher.shown (.success (.known output))) := by
  have known : ∀ report, answer = .finished report →
      report.result = .pass ∧ output = .check report := by
    rintro report rfl
    cases passes with
    | finished passed =>
        rw [checkOutput, passed] at told
        exact ⟨passed, (Except.ok.inj told).symm⟩
  constructor
  case success => simp [passes]
  case failure => exact fun failed => absurd passes failed
  case scripts =>
    intro json report finished
    obtain ⟨passed, rfl⟩ := known report finished
    exact ⟨(Output.check report).envelope,
      Dispatcher.shown_json json rfl (Output.whole_envelope _), Output.summarizes_check passed⟩
  case failedPlain =>
    intro _ report finished failed
    rw [(known report finished).1] at failed
    cases failed
  case passedPlain =>
    intro plain report finished _
    obtain ⟨_, rfl⟩ := known report finished
    have body : (dispatcher.emissionOfReport (.ofOutput (.check report))).output =
        dispatcher.writtenBody (Report.checkBody report).toList := by
      rw [dispatcher.output_of_body rfl, if_neg (Report.checkBody_ne_empty report)]
    rw [Dispatcher.shown_plain plain]
    refine ⟨body, fun uncontrolled => body.trans ?_⟩
    rw [Dispatcher.writtenBody, withoutControls_of_notMem _ uncontrolled, ite_self]

theorem judged_failed {report : CheckReport} (failed : report.result = .fail) :
    Judged dispatcher graph (.finished report) 1
      (dispatcher.shown (.failure (.operationCheck graph report))) := by
  have fails : ¬ (CheckAnswer.finished report).Passes := by
    intro passes
    cases passes with
    | finished passed =>
        rw [failed] at passed
        cases passed
  constructor
  case success => simp [fails]
  case failure =>
    have told := dispatcher.tells_shown (.operationCheck graph report)
    rw [Failure.code_operationCheck] at told
    exact fun _ => ⟨rfl, report, rfl, told⟩
  case scripts =>
    rintro json _ ⟨rfl⟩
    exact ⟨(Failure.operationCheck graph report).envelope,
      Dispatcher.shown_json json rfl (Failure.whole_envelope _),
      Failure.summarizes_operationCheck graph failed⟩
  case failedPlain =>
    rintro plain _ ⟨rfl⟩ _
    rw [Dispatcher.shown_plain_failure plain]
    simp only [and_self]
  case passedPlain =>
    rintro _ _ ⟨rfl⟩ passed
    rw [failed] at passed
    cases passed

/-- Whatever the registry answers to a check, and however the command is shown, it succeeds if the
check passed or has been queued, and tells of a check that failed in the registry's words. -/
theorem checkGraph_judged (schema : String) (background : Bool) (world : World)
    (answer : CheckAnswer)
    (answered : (world.client.script .checkGraph).reaction = .ok answer) :
    ∃ code emission,
      dispatcher.run ((runIn (checkGraph graph schema background) world).1.map .known) true =
        .ok (code, emission) ∧ Judged dispatcher graph answer code emission := by
  have handled : (runIn (checkGraph graph schema background) world).1 =
      checkOutput graph answer :=
    (enriched_request (.checkGraph graph schema background) "checking graph schema"
      fun answer world => runIn_ofExcept (checkOutput graph answer) world).answered world answer
        answered
  rw [handled]
  by_cases passes : answer.Passes
  · obtain ⟨output, told⟩ : ∃ output, checkOutput graph answer = .ok output := by
      cases passes with
      | queued check => exact ⟨_, rfl⟩
      | finished passed => exact ⟨_, by rw [checkOutput, passed]⟩
    rw [told, Except.map, dispatcher.run_known]
    exact ⟨0, _, rfl, judged_passed dispatcher graph passes told⟩
  · obtain ⟨report, rfl, failed⟩ := CheckAnswer.finished_of_not_passes passes
    have told : checkOutput graph (.finished report) =
        .error (.failure (.operationCheck graph report)) := by
      rw [checkOutput, failed]
    rw [told, Except.map, dispatcher.run_reported rfl]
    exact ⟨1, _, rfl, judged_failed dispatcher graph failed⟩

end Judging

/-- A report that counts none of its changes, although one of them breaks clients and its result
says so. -/
def inconsistentReport : CheckReport where
  operationCount := 7
  changes := [⟨"FIELD_REMOVED", "a", .fail⟩, ⟨"FIELD_ADDED", "b", .pass⟩]
  result := .fail
  failureCount := 0
  graph := { name := "other" }
  coreSchemaModified := false

def inconsistentClient : Client :=
  Client.silent.withScript .checkGraph [.ok (.finished inconsistentReport)]

theorem checkGraph_judged_inconsistent :
    let graph : GraphRef := { name := "g" }
    let world : World := { client := inconsistentClient }
    (world.client.script .checkGraph).reaction = .ok (.finished inconsistentReport) ∧
      ∃ emission, Dispatcher.run ⟨.json, false, false⟩
          ((runIn (checkGraph graph "type Query" true) world).1.map .known) true =
            .ok (1, emission) ∧
        Judged ⟨.json, false, false⟩ graph (.finished inconsistentReport) 1 emission := by
  intro graph world
  have answered : (world.client.script .checkGraph).reaction =
      .ok (.finished inconsistentReport) := rfl
  obtain ⟨code, emission, shown, judged⟩ :=
    checkGraph_judged ⟨.json, false, false⟩ graph "type Query" true world _ answered
  have fails : ¬ (CheckAnswer.finished inconsistentReport).Passes := by
    intro passes
    cases passes with
    | finished passed => cases passed
  obtain ⟨rfl, _⟩ := judged.failure fails
  exact ⟨answered, emission, shown, judged⟩

end Command

end GraphConsole
