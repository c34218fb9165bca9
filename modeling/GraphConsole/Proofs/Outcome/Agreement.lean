import GraphConsole.Outcome.Envelope
import GraphConsole.Outcome.Report

/-! The exit code, the envelope and the report of one outcome agree: on whether it succeeded, on
whether anything went wrong beside that, and on the build errors that did. -/

namespace GraphConsole

open GraphConsole.Registry
open GraphConsole.Text

def Json.at? : List String → Json → Option Json
  | [], value => some value
  | key :: rest, value => (value.field? key).bind (at? rest)

namespace Envelope

theorem at?_success (envelope : Envelope) :
    envelope.toJson.at? ["data", "success"] = some (.bool envelope.success) := by
  change (envelope.data.lookup "success").bind (Json.at? []) = _
  rw [data, Entries.lookup_put_self]
  rfl

theorem at?_error (envelope : Envelope) :
    envelope.toJson.at? ["error"] = some (Json.ofOption ErrorEntry.toJson envelope.error) := rfl

theorem at?_below_error (envelope : Envelope) (entry : ErrorEntry) (path : List String)
    (present : envelope.error = some entry) :
    envelope.toJson.at? ("error" :: path) = entry.toJson.at? path := by
  change (Json.ofOption ErrorEntry.toJson envelope.error).at? path = _
  rw [present]
  rfl

def HasError (envelope : Envelope) : Prop :=
  ∃ value, envelope.toJson.at? ["error"] = some value ∧ value ≠ .null

theorem hasError_iff (envelope : Envelope) : envelope.HasError ↔ envelope.error ≠ none := by
  unfold HasError
  rw [at?_error]
  cases envelope.error with
  | none => simp [Json.ofOption]
  | some entry => simp [Json.ofOption, ErrorEntry.toJson]

end Envelope

namespace Outcome

def Recognized (outcome : Outcome) : Prop :=
  ∀ name, outcome ≠ .success (.foreign name)

def buildErrors : Outcome → List BuildError
  | .success (.known output) => output.buildErrors
  | _ => []

end Outcome

namespace Output

def isPreview : Output → Bool
  | .subgraphDelete _ _ dryRun _ => dryRun
  | _ => false

theorem companion_of_buildErrors (output : Output) (some_errors : output.buildErrors ≠ []) :
    ∃ subgraph graph, output.companion =
      some (.buildErrors output.buildErrors (some subgraph) (some graph)) := by
  cases output with
  | subgraphPublish graph subgraph response =>
      have listed : response.buildErrors.isEmpty = false := by
        simpa [buildErrors] using some_errors
      exact ⟨subgraph, graph, by simp [companion, buildErrors, listed]⟩
  | subgraphDelete graph subgraph dryRun response =>
      have listed : response.buildErrors.isEmpty = false := by
        simpa [buildErrors] using some_errors
      exact ⟨subgraph, graph, by simp [companion, buildErrors, listed]⟩
  | _ => exact absurd rfl some_errors

theorem advisory_of_companion (output : Output) :
    ∃ introduction closing, closing.length = (if output.isPreview then 1 else 0) ∧
      (Report.ofOutput output).advisory =
        Report.advice output.companion introduction closing := by
  cases output with
  | subgraphPublish graph subgraph response => exact ⟨_, _, rfl, rfl⟩
  | subgraphDelete graph subgraph dryRun response =>
      cases dryRun with
      | true => exact ⟨_, [_], rfl, rfl⟩
      | false => exact ⟨_, [], rfl, rfl⟩
  | _ => exact ⟨"", [], rfl, rfl⟩

theorem advisory_ne_nil_iff (output : Output) :
    (Report.ofOutput output).advisory ≠ [] ↔ output.buildErrors ≠ [] := by
  obtain ⟨introduction, closing, _, advisory⟩ := output.advisory_of_companion
  rw [advisory, ne_eq, ne_eq, ← output.companion_eq_none_iff]
  cases output.companion with
  | none => simp [Report.advice]
  | some failure => simp [Report.advice]

theorem envelope_hasError_iff (output : Output) :
    output.envelope.HasError ↔ output.buildErrors ≠ [] := by
  rw [Envelope.hasError_iff, ne_eq, ne_eq, ← output.companion_eq_none_iff]
  simp [envelope]

end Output

/-! The number of build errors, as the message states it. -/

namespace Registry.BuildError

def countOpening : List Char := "Encountered ".toList

/-- The number that a message states at its beginning. -/
def statedCount (message : String) : Option Nat :=
  if countOpening.isPrefixOf message.toList then
    some (ofDigits ((message.toList.drop countOpening.length).takeWhile isDigit))
  else none

theorem statedCount_of_digits (count : Nat) (rest : List Char) :
    statedCount (String.ofList (countOpening ++ (natDigits count ++ ' ' :: rest))) =
      some count := by
  have opened : countOpening.isPrefixOf (countOpening ++ (natDigits count ++ ' ' :: rest)) :=
    List.isPrefixOf_iff_prefix.mpr (List.prefix_append _ _)
  have digits : (natDigits count ++ ' ' :: rest).takeWhile isDigit = natDigits count := by
    rw [List.takeWhile_append_of_pos fun c member => isDigit_of_mem_natDigits count member]
    simp [isDigit]
  unfold statedCount
  rw [String.toList_ofList, if_pos opened, List.drop_left, digits, ofDigits_natDigits]

theorem toList_counted (count : Nat) :
    ∃ rest, (counted count).toList = natDigits count ++ ' ' :: rest := by
  unfold counted natText
  split
  · exact ⟨"build error".toList, by simp⟩
  · exact ⟨"build errors".toList, by simp⟩

theorem toList_message (errors : List BuildError) (subgraph : String) (graph : GraphRef) :
    ∃ rest, (Failure.buildErrors errors (some subgraph) (some graph)).message.toList =
      countOpening ++ ((counted errors.length).toList ++ rest) := by
  unfold Failure.message
  simp only [String.toList_append, List.append_assoc]
  exact ⟨_, rfl⟩

theorem statedCount_message (errors : List BuildError) (subgraph : String) (graph : GraphRef) :
    statedCount (Failure.buildErrors errors (some subgraph) (some graph)).message =
      some errors.length := by
  obtain ⟨rest, message⟩ := toList_message errors subgraph graph
  obtain ⟨noun, counted⟩ := toList_counted errors.length
  rw [counted, List.append_assoc, List.cons_append] at message
  rw [← String.ofList_toList (s := Failure.message _), message]
  exact statedCount_of_digits errors.length (noun ++ rest)

end Registry.BuildError

/-- What scripts and people are told of a write that was made although its build errors keep the
supergraph from being composed. -/
structure DualState (output : Output) (scripts : Json) (report : Report) : Prop where
  code : scripts.at? ["error", "code"] = some (.string "E029")
  message : ∃ message, scripts.at? ["error", "message"] = some (.string message) ∧
    BuildError.statedCount message = some output.buildErrors.length
  details : ∃ items, scripts.at? ["error", "details", "build_errors"] = some (.array items) ∧
    items.length = output.buildErrors.length
  lines : ∃ introduction items closing,
    report.advisory = introduction :: (items ++ closing) ∧
      items.length = output.buildErrors.length ∧
      closing.length = (if output.isPreview then 1 else 0) ∧
      ∀ (index : Nat) (error : BuildError), output.buildErrors[index]? = some error →
        items[index]?.map Line.plain =
          some ("WARN: ".toList ++ Table.onPage error.toText.toList)
  count : report.advisory.length =
    output.buildErrors.length + (if output.isPreview then 2 else 1)

theorem plain_itemLines (errors : List BuildError) (subgraph : Option String)
    (graph : Option GraphRef) :
    ((Failure.buildErrors errors subgraph graph).itemLines (some .warning)).map Line.plain =
      errors.map fun error => "WARN: ".toList ++ Table.onPage error.toText.toList := by
  have labelled : ∀ error : BuildError, (Severity.warning.line error.toText).plain =
      "WARN: ".toList ++ Table.onPage error.toText.toList := fun _ => rfl
  simp [Failure.itemLines, Failure.items, labelled]

theorem dualState_of_buildErrors (output : Output) (some_errors : output.buildErrors ≠ []) :
    DualState output output.envelope.toJson (.ofOutput output) := by
  obtain ⟨subgraph, graph, companion⟩ := output.companion_of_buildErrors some_errors
  obtain ⟨introduction, closing, closed, advisory⟩ := output.advisory_of_companion
  have entry : output.envelope.error = some (.ofFailure
      (.buildErrors output.buildErrors (some subgraph) (some graph))) := by
    simp [Output.envelope, companion]
  have plain := plain_itemLines output.buildErrors (some subgraph) (some graph)
  have length := congrArg List.length plain
  rw [List.length_map, List.length_map] at length
  rw [companion] at advisory
  refine ⟨?_, ⟨_, ?_, BuildError.statedCount_message output.buildErrors subgraph graph⟩,
    ⟨output.buildErrors.map BuildError.toJson, ?_, List.length_map _⟩,
    ⟨_, _, closing, advisory, length, closed, ?_⟩, ?_⟩
  · rw [Envelope.at?_below_error _ _ _ entry]
    rfl
  · rw [Envelope.at?_below_error _ _ _ entry]
    rfl
  · rw [Envelope.at?_below_error _ _ _ entry]
    rfl
  · intro index error found
    rw [← List.getElem?_map, plain, List.getElem?_map, found]
    rfl
  · rw [advisory]
    cases preview : output.isPreview <;>
      simp [Report.advice, length, closed, preview, Nat.add_assoc]

/-- Exit code, envelope and report of an outcome tell the same story. -/
theorem Outcome.renderings_agree (outcome : Outcome) (recognized : outcome.Recognized) :
    ∃ envelope, outcome.envelope = .ok envelope ∧
      (outcome.exitCode = 0 ↔
        envelope.toJson.at? ["data", "success"] = some (.bool true)) ∧
      (outcome.exitCode ≠ 0 → outcome.exitCode = 1) ∧
      (envelope.HasError ↔
        (∃ failure, outcome = .failure failure) ∨ outcome.buildErrors ≠ []) ∧
      ∀ output, outcome = .success (.known output) →
        ((Report.ofOutput output).advisory ≠ [] ↔ envelope.HasError) ∧
          (output.buildErrors ≠ [] →
            DualState output envelope.toJson (.ofOutput output)) := by
  cases outcome with
  | failure failure =>
      refine ⟨failure.envelope, rfl, ?_, fun _ => rfl, ?_, fun _ other => nomatch other⟩
      · rw [Envelope.at?_success]
        simp [exitCode, Failure.envelope]
      · rw [Envelope.hasError_iff]
        simp [Failure.envelope]
  | success answer =>
      cases answer with
      | foreign name => exact absurd rfl (recognized name)
      | known output =>
          refine ⟨output.envelope, rfl, ?_, fun failed => absurd rfl failed, ?_, ?_⟩
          · rw [Envelope.at?_success]
            simp [exitCode, Output.envelope]
          · rw [output.envelope_hasError_iff]
            simp [buildErrors]
          · rintro _ ⟨rfl⟩
            exact ⟨output.advisory_ne_nil_iff.trans output.envelope_hasError_iff.symm,
              dualState_of_buildErrors output⟩

def Output.troubledPreview : Output :=
  .subgraphDelete { name := "g" } "s" true
    { supergraphUpdated := false
      buildErrors := [{ message := some "no \x07type", code := some "C" }, { message := none }] }

theorem renderings_agree_troubledPreview :
    Outcome.Recognized (.success (.known .troubledPreview)) ∧
      Outcome.exitCode (.success (.known .troubledPreview)) = 0 ∧
      Output.troubledPreview.envelope.HasError ∧
      DualState .troubledPreview Output.troubledPreview.envelope.toJson
        (.ofOutput .troubledPreview) := by
  have recognized : Outcome.Recognized (.success (.known .troubledPreview)) :=
    fun _ same => nomatch same
  obtain ⟨envelope, rendered, _, _, hasError, told⟩ :=
    Outcome.renderings_agree (.success (.known .troubledPreview)) recognized
  cases rendered
  have troubled : Output.troubledPreview.buildErrors ≠ [] := by simp [Output.troubledPreview,
    Output.buildErrors]
  exact ⟨recognized, rfl, hasError.mpr (.inr troubled), (told _ rfl).2 troubled⟩

end GraphConsole
