import GraphConsole.Proofs.Outcome.Correspondence

/-! Checks that found breaking changes. However such a check is told of, it is with the same number
of changes that break clients, and with these changes. -/

namespace GraphConsole

open GraphConsole.Registry
open GraphConsole.Text

namespace Registry.SchemaChange

/-- How many of some changes break clients. -/
def breaking (changes : List SchemaChange) : Nat :=
  changes.countP fun change => change.verdict = .fail

theorem length_failing (changes : List SchemaChange) :
    (failing changes).length = breaking changes := by
  rw [failing, breaking, List.countP_eq_length_filter]

/-- What scripts are told of a change. -/
structure Shown (entry : Json) (change : SchemaChange) : Prop where
  code : entry.at? ["code"] = some (.string change.code)
  description : entry.at? ["description"] = some (.string change.description)
  severity : entry.at? ["severity"] = some (.string change.verdict.name)

theorem shown_toJson (change : SchemaChange) : Shown change.toJson change where
  code := rfl
  description := rfl
  severity := rfl

/-- Whether an entry among the changes says that clients break. -/
def saysFail (entry : Json) : Bool :=
  (entry.at? ["severity"]).bind Json.string? == some "FAIL"

theorem Shown.saysFail_eq {entry : Json} {change : SchemaChange} (shown : Shown entry change) :
    saysFail entry = decide (change.verdict = .fail) := by
  rw [saysFail, shown.severity]
  cases change.verdict <;> decide

theorem countP_saysFail {entries : List Json} {changes : List SchemaChange}
    (shown : List.Forall₂ Shown entries changes) :
    entries.countP saysFail = breaking changes := by
  rw [breaking]
  induction shown with
  | nil => rfl
  | cons first _ induction => rw [List.countP_cons, List.countP_cons, induction, first.saysFail_eq]

end Registry.SchemaChange

/-- What scripts and people are told of a check that failed, when so many of its changes break
clients. -/
structure Failure.TellsBreakage (failure : Failure) (changes : List SchemaChange) (count : Nat)
    (scripts : Json) (people : List Line) : Prop where
  message : failure.message = "This operation check has encountered " ++ natText count
    ++ (if count = 1 then " schema change" else " schema changes")
    ++ " that would break operations from existing client traffic."
  worded : scripts.at? ["error", "message"] = some (.string failure.message)
  failureCount : scripts.at? ["data", "failure_count"] = some (.integer count)
  entries : ∃ entries, scripts.at? ["data", "changes"] = some (.array entries) ∧
    List.Forall₂ SchemaChange.Shown entries changes ∧
    entries.countP SchemaChange.saysFail = count
  success : scripts.at? ["data", "success"] = some (.bool false)
  lines : people.tail.length = count
  items : List.Forall₂
    (fun line change => line.Labelled "error:" (change.code ++ ": " ++ change.description))
    people.tail (changes.filter fun change => change.verdict = .fail)

theorem Failure.tellsBreakage_operationCheck (graph : GraphRef) {report : CheckReport}
    (counted : report.failureCount = SchemaChange.breaking report.changes) :
    (Failure.operationCheck graph report).TellsBreakage report.changes
      (SchemaChange.breaking report.changes) (Failure.operationCheck graph report).envelope.toJson
      (Failure.operationCheck graph report).lines := by
  have shown : List.Forall₂ SchemaChange.Shown (report.changes.map SchemaChange.toJson)
      report.changes := by
    rw [List.forall₂_map_left_iff, List.forall₂_same]
    exact fun change _ => change.shown_toJson
  have items : List.Forall₂
      (fun line change => line.Labelled "error:" (change.code ++ ": " ++ change.description))
      (Failure.operationCheck graph report).lines.tail (SchemaChange.failing report.changes) := by
    have labelled := (Failure.operationCheck graph report).labelled_itemLines
    rwa [Failure.items, List.forall₂_map_right_iff] at labelled
  constructor
  case message =>
    have one (count : Nat) : (count : Int) = 1 ↔ count = 1 := by omega
    unfold Failure.message
    simp only [counted, one]
    rfl
  case worded => exact Failure.at?_error _ ["message"]
  case failureCount =>
    rw [← counted]
    rfl
  case entries => exact ⟨_, rfl, shown, SchemaChange.countP_saysFail shown⟩
  case success => exact Envelope.at?_success _
  case lines => rw [items.length_eq, SchemaChange.length_failing]
  case items => exact items

/-- However many changes a check has, and of whichever kinds: it counts those that break clients,
fails if its result says so, and then is told of with that number and these changes. -/
theorem CheckReport.breakage_told (targetUrl : Option String) (operationCount : Int)
    (changes : List SchemaChange) (result : Verdict) (graph : GraphRef)
    (coreSchemaModified : Bool) :
    let report := CheckReport.ofChanges targetUrl operationCount changes result graph
      coreSchemaModified
    report.failureCount = SchemaChange.breaking changes ∧
      (result ≠ .fail → report.judge = .ok report) ∧
      ((∃ failure, report.judge = .error failure) ↔ result = .fail) ∧
      ∀ failure, report.judge = .error failure →
        failure = .operationCheck graph report ∧
        ∃ envelope, Outcome.envelope (.failure failure) = .ok envelope ∧
          failure.TellsBreakage changes (SchemaChange.breaking changes) envelope.toJson
            failure.lines := by
  intro report
  have counted : report.failureCount = SchemaChange.breaking changes :=
    congrArg Nat.cast (SchemaChange.length_failing changes)
  refine ⟨counted, ?_⟩
  cases result with
  | pass => exact ⟨fun _ => rfl, by simp [CheckReport.judge, report, CheckReport.ofChanges], nofun⟩
  | fail =>
      refine ⟨fun passed => absurd rfl passed, ⟨fun _ => rfl, fun _ => ⟨_, rfl⟩⟩, ?_⟩
      rintro failure ⟨rfl⟩
      exact ⟨rfl, _, rfl, Failure.tellsBreakage_operationCheck graph counted⟩

/-- Two changes that break clients around one that does not, one of them with a bell in its text. -/
def Registry.SchemaChange.mixed : List SchemaChange :=
  [⟨"FIELD_REMOVED", "no\x07bell", .fail⟩, ⟨"FIELD_ADDED", "a", .pass⟩, ⟨"ARG_ADDED", "b", .fail⟩]

theorem CheckReport.breakage_told_mixed :
    let report := CheckReport.ofChanges none 7 SchemaChange.mixed .fail { name := "g" } true
    ∃ failure, report.judge = .error failure ∧
      failure.TellsBreakage SchemaChange.mixed 2 failure.envelope.toJson failure.lines := by
  intro report
  obtain ⟨_, _, raised, told⟩ :=
    CheckReport.breakage_told none 7 SchemaChange.mixed .fail { name := "g" } true
  obtain ⟨failure, judged⟩ := raised.mpr rfl
  obtain ⟨_, envelope, rendered, tells⟩ := told failure judged
  cases rendered
  exact ⟨failure, judged, tells⟩

/-- People do not see the bell. -/
theorem CheckReport.not_verbatim_mixed :
    ¬ ∀ (changes : List SchemaChange) failure,
      (CheckReport.ofChanges none 7 changes .fail { name := "g" } true).judge = .error failure →
      failure.lines.tail.map Line.plain =
        (changes.filter fun change => change.verdict = .fail).map fun change =>
          ("error: " ++ (change.code ++ ": " ++ change.description)).toList := by
  intro always
  have verbatim := always SchemaChange.mixed _ rfl
  exact absurd verbatim (by decide)

end GraphConsole
