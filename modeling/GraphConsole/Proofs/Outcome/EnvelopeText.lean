import GraphConsole.Outcome.Envelope
import GraphConsole.Proofs.Json.Printing
import GraphConsole.Text.ControlSequence

/-! The text of an envelope, which consists of line feeds and printing characters of ASCII. -/

namespace GraphConsole

open GraphConsole.Json
open GraphConsole.Registry
open GraphConsole.Text

namespace Registry

@[simp] theorem whole_buildError (error : BuildError) : error.toJson.Whole := by
  simp [BuildError.toJson]

@[simp] theorem whole_changeCounts (counts : ChangeCounts) : counts.toJson.Whole := by
  simp [ChangeCounts.toJson]

@[simp] theorem whole_schemaChange (change : SchemaChange) : change.toJson.Whole := by
  simp [SchemaChange.toJson]

@[simp] theorem whole_compositionHint (hint : CompositionHint) : hint.toJson.Whole := by
  simp [CompositionHint.toJson]

@[simp] theorem whole_template (template : Template) : template.toJson.Whole := by
  simp [Template.toJson]

@[simp] theorem whole_subgraph (subgraph : Subgraph) : subgraph.toJson.Whole := by
  have updated : subgraph.updatedAt.toJson.Whole := by
    have time : ∀ time : Option Timestamp, (ofOption Timestamp.toJson time).Whole :=
      whole_ofOption fun _ => .string _
    simp [UpdatedAt.toJson, time]
  simp [Subgraph.toJson, updated]

theorem whole_summaryFields (report : CheckReport) :
    ∀ field ∈ report.summaryFields, field.2.Whole := by
  simp [CheckReport.summaryFields]

end Registry

/-- What an envelope holds has whole numbers only. -/
structure Envelope.Whole (envelope : Envelope) : Prop where
  fields : ∀ field ∈ envelope.fields, field.2.Whole
  details : ∀ entry details, envelope.error = some entry → entry.details = some details →
    details.Whole

theorem Envelope.Whole.toJson {envelope : Envelope} (whole : envelope.Whole) :
    envelope.toJson.Whole := by
  have data : ∀ field ∈ envelope.data, field.2.Whole :=
    Entries.forall_put "success" whole.fields (.bool _)
  have error : (ofOption ErrorEntry.toJson envelope.error).Whole := by
    cases found : envelope.error with
    | none => exact .null
    | some entry =>
        cases detailed : entry.details with
        | none => simp [ofOption, ErrorEntry.toJson, detailed]
        | some details =>
            have wholeDetails := whole.details entry details found detailed
            simp [ofOption, ErrorEntry.toJson, detailed, wholeDetails]
  simpa [Envelope.toJson, error] using fun name value member => data (name, value) member

theorem Failure.whole_details {failure : Failure} {details : Json}
    (detailed : failure.details = some details) : details.Whole := by
  cases failure with
  | noSupergraphBuilds graph errors =>
      cases detailed
      simp [BuildError.listJson]
  | buildErrors errors subgraph graph =>
      cases detailed
      simp [BuildError.listJson]
  | _ => cases detailed

theorem Failure.whole_envelope (failure : Failure) : failure.envelope.Whole where
  fields := by
    cases failure with
    | operationCheck graph report =>
        exact Entries.forall_put "success" (whole_summaryFields report) (.bool false)
    | _ => exact nofun
  details := by
    rintro _ details ⟨rfl⟩ detailed
    exact whole_details detailed

theorem Output.whole_fields (output : Output) : ∀ field ∈ output.fields, field.2.Whole := by
  cases output with
  | check report => exact whole_summaryFields report
  | compositionResult composition =>
      cases version : composition.federationVersion with
      | none => simp [fields, version]
      | some version => simp [fields, version]
  | docsList shortlinks =>
      simp only [fields, List.mem_singleton, forall_eq, whole_array]
      intro item member
      obtain ⟨⟨slug, description⟩, _, rfl⟩ := List.mem_map.mp member
      simp
  | _ => simp [fields, ContractPublication.fields, QueuedCheck.summaryFields, strings]

theorem Output.whole_envelope (output : Output) : output.envelope.Whole where
  fields := output.whole_fields
  details := by
    intro entry details present detailed
    obtain ⟨failure, _, rfl⟩ := Option.map_eq_some_iff.mp present
    exact Failure.whole_details detailed

theorem Envelope.Whole.all_toText {envelope : Envelope} (whole : envelope.Whole) :
    envelope.toText.toList.all isTextChar = true := by
  rw [Envelope.toText, toIndented, String.toList_ofList]
  exact all_printIndented whole.toJson 0

theorem Envelope.Whole.withoutControls_toText {envelope : Envelope} (whole : envelope.Whole) :
    withoutControls envelope.toText.toList = envelope.toText.toList := by
  apply withoutControls_of_notMem
  intro member
  have printed := List.all_eq_true.mp whole.all_toText '\x1b' member
  exact absurd printed (by decide)

end GraphConsole
