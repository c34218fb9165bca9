import GraphConsole.Proofs.Console.Showing
import Mathlib.Data.List.Forall2

/-! A failure as scripts read it and as people do: the same code, the same message, and the same
build errors, each on a line of its own. -/

namespace GraphConsole

open GraphConsole.Registry
open GraphConsole.Text

/-- A line that begins with a label, which is all of it that is styled, and goes on with a text as
far as a page shows it. -/
structure Line.Labelled (line : Line) (label text : String) : Prop where
  plain : line.plain = label.toList ++ ' ' :: Table.onPage text.toList
  spans : ∃ style, line.spans = [(0, label.toList.length, style)]

/-- What people are told of an entry among the build errors of an envelope. -/
def Registry.BuildError.Reads (entry : Json) (text : String) : Prop :=
  ∃ message code, entry.at? ["message"] = some (Json.optionalString message) ∧
    entry.at? ["code"] = some (Json.optionalString code) ∧
    text = (if message.getD "" = "" then placeholder else message.getD "")
      ++ (if code.getD "" = "" then "" else " [" ++ code.getD "" ++ "]")

/-- What scripts and people are told of a failure, side by side. -/
structure Failure.Corresponds (failure : Failure) (scripts : Json) (people : List Line) : Prop where
  code : scripts.at? ["error", "code"] = some (Json.optionalString failure.kind.code)
  headline : ∃ message, scripts.at? ["error", "message"] = some (.string message) ∧
    ∃ line, people.head? = some line ∧ line.Labelled (Dispatcher.label failure.kind.code) message
  items : List.Forall₂ (fun line item => line.Labelled failure.kind.severity.label item)
    people.tail failure.items
  details : (∃ details, scripts.at? ["error", "details"] = some details) ↔
    failure.kind = .buildErrors ∨ failure.kind = .noSupergraphBuilds
  buildErrors : (∃ details, scripts.at? ["error", "details"] = some details) →
    ∃ entries, scripts.at? ["error", "details", "build_errors"] = some (.array entries) ∧
      List.Forall₂ (fun line entry => ∃ text, BuildError.Reads entry text ∧
        line.Labelled failure.kind.severity.label text) people.tail entries
  data : failure.kind ≠ .operationCheckFailure →
    scripts.at? ["data"] = some (.object [("success", .bool false)])

namespace Registry.BuildError

theorem reads_toText (error : BuildError) : Reads error.toJson error.toText := by
  refine ⟨error.message, error.code, rfl, rfl, ?_⟩
  obtain ⟨message, code⟩ := error
  cases message with
  | none => cases code with
    | none => simp [toText]
    | some code => by_cases empty : code = "" <;> simp [toText, empty, String.append_assoc]
  | some message => cases code with
    | none => by_cases empty : message = "" <;> simp [toText, empty]
    | some code => by_cases empty : code = "" <;> by_cases none : message = "" <;>
        simp [toText, empty, none, String.append_assoc]

end Registry.BuildError

namespace Failure

theorem labelled_line (severity : Severity) (message : String) :
    (severity.line message).Labelled severity.label message where
  plain := by cases severity <;> rfl
  spans := ⟨severity.style, by cases severity <;> rfl⟩

theorem labelled_headline (failure : Failure) :
    failure.headline.Labelled (Dispatcher.label failure.kind.code) failure.message := by
  constructor
  case plain => exact Dispatcher.plain_headline failure
  case spans =>
    refine ⟨.boldRed, ?_⟩
    have styled : failure.headline.spans =
        [(0, (Table.onPage (Dispatcher.label failure.code).toList).length, .boldRed)] := by
      unfold Failure.headline
      cases failure.code with
      | some code => rfl
      | none => rfl
    rw [styled, Failure.code, Dispatcher.onPage_label]

theorem labelled_itemLines (failure : Failure) :
    List.Forall₂ (fun line item => line.Labelled failure.kind.severity.label item)
      failure.itemLines failure.items := by
  rw [itemLines, List.forall₂_map_left_iff, List.forall₂_same]
  exact fun item _ => labelled_line failure.kind.severity item

theorem at?_error (failure : Failure) (path : List String) :
    failure.envelope.toJson.at? ("error" :: path) =
      (ErrorEntry.ofFailure failure).toJson.at? path :=
  Envelope.at?_below_error _ _ _ rfl

/-- The build errors behind a failure, where there is a place for them. -/
def buildErrors? : Failure → Option (List BuildError)
  | .noSupergraphBuilds _ errors => some errors
  | .buildErrors errors _ _ => some errors
  | _ => none

theorem at?_details (failure : Failure) :
    failure.envelope.toJson.at? ["error", "details"] = failure.buildErrors?.map fun errors =>
      .object [("build_errors", .array (errors.map BuildError.toJson))] := by
  rw [at?_error]
  cases failure <;> rfl

theorem isSome_buildErrors? (failure : Failure) :
    failure.buildErrors?.isSome = true ↔
      failure.kind = .buildErrors ∨ failure.kind = .noSupergraphBuilds := by
  cases failure <;> simp [buildErrors?, kind]

theorem at?_buildErrors {failure : Failure} {errors : List BuildError}
    (behind : failure.buildErrors? = some errors) :
    failure.envelope.toJson.at? ["error", "details", "build_errors"] =
      some (.array (errors.map BuildError.toJson)) := by
  rw [at?_error]
  cases failure with
  | noSupergraphBuilds graph listed => cases behind; rfl
  | buildErrors listed subgraph graph => cases behind; rfl
  | _ => cases behind

theorem items_of_buildErrors {failure : Failure} {errors : List BuildError}
    (behind : failure.buildErrors? = some errors) :
    failure.items = errors.map BuildError.toText := by
  cases failure with
  | noSupergraphBuilds graph listed => cases behind; rfl
  | buildErrors listed subgraph graph => cases behind; rfl
  | _ => cases behind

theorem data_of_other {failure : Failure} (other : failure.kind ≠ .operationCheckFailure) :
    failure.data = [] := by
  cases failure with
  | operationCheck graph report => exact absurd rfl other
  | _ => rfl

/-- Scripts and people are told the same of every failure. -/
theorem renderings_correspond (failure : Failure) :
    ∃ envelope, Outcome.envelope (.failure failure) = .ok envelope ∧
      failure.Corresponds envelope.toJson failure.lines := by
  refine ⟨failure.envelope, rfl, ?_⟩
  constructor
  case code => exact failure.at?_error ["code"]
  case headline =>
    exact ⟨failure.message, failure.at?_error ["message"], failure.headline, rfl,
      failure.labelled_headline⟩
  case items => exact failure.labelled_itemLines
  case details =>
    rw [at?_details, ← isSome_buildErrors?]
    cases failure.buildErrors? <;> simp
  case buildErrors =>
    rintro ⟨details, present⟩
    rw [at?_details] at present
    obtain ⟨errors, behind, _⟩ := Option.map_eq_some_iff.mp present
    refine ⟨_, at?_buildErrors behind, ?_⟩
    have told := failure.labelled_itemLines
    rw [items_of_buildErrors behind, List.forall₂_map_right_iff] at told
    rw [List.forall₂_map_right_iff]
    exact told.imp fun line error labelled => ⟨error.toText, error.reads_toText, labelled⟩
  case data =>
    intro other
    change some (Json.object (Entries.put "success" (.bool false) failure.data)) = _
    rw [data_of_other other]
    rfl

end Failure

end GraphConsole
